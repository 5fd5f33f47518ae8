import TemporalQuery.Proofs.Canonical.RoundTrip

/-!
# The queries that are read

A query is read from some text exactly if every node is one that reading can put there and the bound
is in range (`Query.exists_parse_iff_surface`). Then its canonical text is such a text.
-/

namespace TemporalQuery

namespace Expr

/-- What holds of every node of an expression that was read. -/
def Placed : Expr → Prop
  | int n => n ≤ maxInt
  | name x => Identifier.IsWord x
  | minus e => e.isPrimary
  | group _ => True
  | binary _ _ r => ¬ r.isBinary

theorem forall_placed_iff (e : Expr) :
    (∀ d ∈ e.subexpressions, d.Placed) ↔ e.Shaped ∧ e.Writable := by
  induction e with
  | int n => simp [subexpressions, Placed, Shaped, Writable]
  | name x => simp [subexpressions, Placed, Shaped, Writable]
  | minus e ih =>
    rw [subexpressions, List.forall_mem_cons, ih]
    exact and_assoc.symm
  | group e ih =>
    rw [subexpressions, List.forall_mem_cons, ih]
    exact and_iff_right trivial
  | binary op l r ihl ihr =>
    rw [subexpressions, List.forall_mem_cons, List.forall_mem_append, ihl, ihr]
    simp only [Placed, Shaped, Writable]
    tauto

end Expr

namespace Condition

/-- What holds of every node of a condition that was read. -/
def Placed : Condition → Prop
  | constant _ => True
  | bare e => ∀ d ∈ e.subexpressions, d.Placed
  | compare l _ r => ∀ d ∈ l.subexpressions ++ r.subexpressions, d.Placed
  | unary _ c => c.isPrimary
  | group c => ¬ c.isBare
  | binary _ _ r => ¬ r.isBinary

/-- Every node is one that reading can put there. -/
def Surface (c : Condition) : Prop := ∀ d ∈ c.subformulas, d.Placed

theorem surface_constant (k : Constant) : (constant k).Surface := by
  simp [Surface, subformulas, Placed]

theorem surface_unary_iff {op : UnaryOp} {c : Condition} :
    (unary op c).Surface ↔ c.isPrimary ∧ c.Surface := List.forall_mem_cons

theorem surface_group_iff {c : Condition} : (group c).Surface ↔ ¬ c.isBare ∧ c.Surface :=
  List.forall_mem_cons

theorem surface_binary_iff {op : Connective} {l r : Condition} :
    (binary op l r).Surface ↔ ¬ r.isBinary ∧ l.Surface ∧ r.Surface := by
  rw [Surface, subformulas, List.forall_mem_cons, List.forall_mem_append]
  rfl

theorem surface_iff (c : Condition) : c.Surface ↔ c.Shaped ∧ c.Writable := by
  induction c with
  | constant k => exact iff_of_true (surface_constant k) ⟨trivial, trivial⟩
  | bare e =>
    rw [Surface, subformulas, List.forall_mem_singleton]
    exact e.forall_placed_iff
  | compare l op r =>
    rw [Surface, subformulas, List.forall_mem_singleton, Placed, List.forall_mem_append,
      Expr.forall_placed_iff, Expr.forall_placed_iff]
    exact and_and_and_comm
  | unary op c ih =>
    rw [surface_unary_iff, ih]
    exact and_assoc.symm
  | group c ih =>
    rw [surface_group_iff, ih]
    exact and_assoc.symm
  | binary op l r ihl ihr =>
    rw [surface_binary_iff, ihl, ihr]
    simp only [Shaped, Writable]
    tauto

end Condition

namespace Query

/-- Each node is where reading can put it, and the bound is in range. -/
structure Surface (q : Query) : Prop where
  condition : q.condition.Surface
  bound : ∀ b ∈ q.bound, b.max ≤ maxInt

theorem surface_iff (q : Query) : q.Surface ↔ q.condition.Shaped ∧ q.Writable := by
  constructor
  · intro h
    obtain ⟨shaped, writable⟩ := q.condition.surface_iff.mp h.condition
    exact ⟨shaped, writable, h.bound⟩
  · rintro ⟨shaped, writable⟩
    exact ⟨q.condition.surface_iff.mpr ⟨shaped, writable.condition⟩, writable.bound⟩

theorem Surface.parse_text {q : Query} (h : q.Surface) : parse q.text = .ok q := by
  obtain ⟨shaped, writable⟩ := q.surface_iff.mp h
  exact (TemporalQuery.Query.parse_text writable).trans (congrArg _ (reread_of_shaped shaped))

theorem surface_of_parse {text : String} {q : Query} (h : parse text = .ok q) : q.Surface :=
  q.surface_iff.mpr ⟨shaped_of_parse h, writable_of_parse h⟩

/-- The queries that are read from some text are those of surface shape, under any heading. -/
theorem exists_parse_iff_surface (q : Query) : (∃ text, parse text = .ok q) ↔ q.Surface := by
  constructor
  · rintro ⟨text, read⟩
    exact surface_of_parse read
  · intro h
    exact ⟨q.text, h.parse_text⟩

end Query

end TemporalQuery
