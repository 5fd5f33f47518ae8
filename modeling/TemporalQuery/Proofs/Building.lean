import TemporalQuery.Proofs.Canonical.RoundTrip
import TemporalQuery.Recipe

/-!
# Building what is read

What a parse tree means can be built from loose values step by step. No check on the way fails where the
tokens are those of a lexed text (`ExprTree.build_recipe`, `CondTree.build_recipe`,
`Derivation.build_recipe`).
-/

namespace TemporalQuery

/-! ### Recipes of trees -/

def ExprTree.recipe {l : Layer} : ExprTree l → Recipe
  | int n => .int (.int n)
  | name _ x _ => .name (.text x)
  | group e => .groupExpr e.recipe
  | minus e => .minus e.recipe
  | plain e => e.recipe
  | single a => a.recipe
  | link e op a => .arith op e.recipe a.recipe

def CondTree.recipe {l : Layer} : CondTree l → Recipe
  | constant k _ => .constant k
  | bare e => .compare e.recipe .none (.raw .none)
  | compare e _ s e' => .compare e.recipe (.text s) e'.recipe
  | group c => .groupCondition c.recipe
  | unary op _ c => .unary op c.recipe
  | plain c => c.recipe
  | single a => a.recipe
  | link c op _ a => .connective op c.recipe a.recipe

def Bound.recipe : Bound → Recipe
  | time n => .time (.int n)
  | steps n => .steps (.int n)

def Derivation.recipe {ts : List Token} (d : Derivation ts) : Recipe :=
  .query d.body.recipe (.raw (d.quantifier.elim .none .quantifier))
    (.raw (d.modality.elim .none .modality)) (d.bound.elim (.raw .none) Bound.recipe)

/-! ### Checks -/

theorem Value.toInt_of_le {n : Nat} (small : n ≤ maxInt) (part : IntPart) :
    (int n).toInt part = .ok n := by
  have within : (0 : Int) ≤ n ∧ (n : Int) ≤ maxInt := ⟨Int.natCast_nonneg n, Int.ofNat_le.mpr small⟩
  rw [toInt, if_pos within, Int.toNat_natCast]

theorem Identifier.IsWord.toIdentifier {x : String} (h : IsWord x) :
    (Value.text x).toIdentifier = .ok x := by
  have nonempty : ¬ x.isEmpty := by
    rw [String.isEmpty_iff]
    rintro rfl
    exact h.nonempty rfl
  rw [Value.toIdentifier, if_neg nonempty]

theorem RelOp.ofValue_of_faithful {op : RelOp} {s : String} (h : (Token.relation op s).Faithful) :
    RelOp.ofValue (.text s) = .ok op := by
  rw [RelOp.ofValue, show RelOp.ofSymbol? s = some op from h]

/-- The token passes the checks of what it stands for. -/
structure Token.Checked (t : Token) : Prop where
  writable : t.Writable
  faithful : t.Faithful

theorem Lexeme.checked_of_mem_lexFrom {cs : List Char} {line : Int} {start : Nat} :
    ∀ t ∈ (lexFrom line start cs).tokens, t.Checked := fun t mem =>
  ⟨writable_of_mem_lexFrom t mem, faithful_of_mem_lexFrom t mem⟩

/-! ### Trees -/

theorem ExprTree.build_recipe {l : Layer} (t : ExprTree l) (h : ∀ u ∈ t.tokens, u.Checked) :
    t.recipe.build = .ok (.expr t.expr) := by
  induction t with
  | int n =>
    have small : n ≤ maxInt := (h (.int n) (List.mem_singleton_self _)).writable
    simp only [recipe, Recipe.build, Value.toInt_of_le small]
    rfl
  | name t x name =>
    have word := (h t (List.mem_singleton_self _)).writable.isWord name
    simp only [recipe, Recipe.build, word.toIdentifier]
    rfl
  | plain e ih | single a ih => exact ih h
  | group e ih =>
    simp only [tokens, List.forall_mem_cons, List.forall_mem_append] at h
    simp only [recipe, Recipe.build, ih h.2.1]
    rfl
  | minus e ih =>
    simp only [tokens, List.forall_mem_cons] at h
    simp only [recipe, Recipe.build, ih h.2]
    rfl
  | link e op a ihe iha =>
    simp only [tokens, List.forall_mem_cons, List.forall_mem_append] at h
    simp only [recipe, Recipe.build, ihe h.1, iha h.2.2]
    rfl

theorem CondTree.build_recipe {l : Layer} (t : CondTree l) (h : ∀ u ∈ t.tokens, u.Checked) :
    t.recipe.build = .ok (.condition t.cond) := by
  induction t with
  | constant k s => rfl
  | bare e =>
    simp only [recipe, Recipe.build, e.build_recipe h]
    rfl
  | compare e op s e' =>
    simp only [tokens, List.forall_mem_cons, List.forall_mem_append] at h
    have relation := RelOp.ofValue_of_faithful h.2.1.faithful
    simp only [recipe, Recipe.build, e.build_recipe h.1, e'.build_recipe h.2.2, RelOp.ofValue?,
      relation]
    rfl
  | plain c ih | single a ih => exact ih h
  | group c ih =>
    simp only [tokens, List.forall_mem_cons, List.forall_mem_append] at h
    simp only [recipe, Recipe.build, ih h.2.1]
    rfl
  | unary op s c ih =>
    simp only [tokens, List.forall_mem_cons] at h
    simp only [recipe, Recipe.build, ih h.2]
    rfl
  | link c op s a ihc iha =>
    simp only [tokens, List.forall_mem_cons, List.forall_mem_append] at h
    simp only [recipe, Recipe.build, ihc h.1, iha h.2.2]
    rfl

theorem Bound.build_recipe {b : Bound} (small : b.max ≤ maxInt) : b.recipe.build = .ok (.bound b) := by
  cases b with
  | time n | steps n =>
    have small : n ≤ maxInt := small
    simp only [recipe, Recipe.build, Value.toInt_of_le small]
    rfl

theorem Query.ofValues_eq_ok (q : Query) :
    Query.ofValues (.condition q.condition) (q.quantifier.elim .none .quantifier)
      (q.modality.elim .none .modality) (q.bound.elim .none .bound) = .ok q := by
  obtain ⟨c, quantifier, modality, bound⟩ := q
  cases quantifier <;> cases modality <;> cases bound <;> rfl

theorem Derivation.build_recipe {ts : List Token} (d : Derivation ts) (h : ∀ t ∈ ts, t.Checked) :
    d.recipe.build = .ok (.query d.query) := by
  rw [d.split] at h
  simp only [List.forall_mem_append] at h
  obtain ⟨_, _, boundChecked, bodyChecked⟩ := h
  have small := d.boundSpan.max_le fun t mem => (boundChecked t mem).writable
  have bound : (d.bound.elim (.raw .none) Bound.recipe).build = .ok (d.bound.elim .none .bound) := by
    cases found : d.bound with
    | none => rfl
    | some b => exact b.build_recipe (small b found)
  simp only [recipe, Recipe.build, d.body.build_recipe bodyChecked, bound]
  exact congrArg (·.bind fun q => .ok (Value.query q)) (Query.ofValues_eq_ok d.query)

end TemporalQuery
