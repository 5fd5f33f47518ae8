import TemporalQuery.Syntax.Condition

/-!
# What occurs in what

Expressions and conditions are listed together with all that occurs in them, and each part is listed
with its own parts in one piece. So occurrence is a partial order, and nothing has a name that what it
occurs in has not (`occurrence_ordered`).
-/

namespace TemporalQuery

universe u

/-- A whole is the first of its parts, and each part is listed with its own parts in one piece. -/
structure ListsParts {α : Type u} (parts : α → List α) : Prop where
  first : ∀ a, (parts a).head? = some a
  piece : ∀ {a part}, part ∈ parts a → parts part <:+: parts a

section

variable {α : Type u} {parts : α → List α} {a b part : α} {inner left right : List α}

namespace ListsParts

theorem mem_self (h : ListsParts parts) (a : α) : a ∈ parts a :=
  List.mem_of_head? (h.first a)

theorem subset (h : ListsParts parts) (inside : part ∈ parts a) : parts part ⊆ parts a :=
  (h.piece inside).subset

/-- Two that occur in each other are listed alike, and so start with the same. -/
theorem antisymm (h : ListsParts parts) (inside : a ∈ parts b) (around : b ∈ parts a) : a = b := by
  have shorter : (parts b).length ≤ (parts a).length := (h.piece around).length_le
  have same : parts a = parts b := (h.piece inside).eq_of_length_le shorter
  have firsts : some a = some b :=
    calc some a
      _ = (parts a).head? := (h.first a).symm
      _ = (parts b).head? := by rw [same]
      _ = some b := h.first b
  exact Option.some.inj firsts

end ListsParts

/-- What is in a whole is the whole itself or below it. -/
theorem piece_of_cons (whole : parts a = a :: inner) (below : part ∈ inner → parts part <:+: inner)
    (inside : part ∈ a :: inner) : parts part <:+: a :: inner := by
  rcases List.mem_cons.mp inside with rfl | inside
  · simp only [whole, List.infix_refl]
  · exact List.infix_cons (below inside)

theorem piece_of_append (atLeft : part ∈ left → parts part <:+: left)
    (atRight : part ∈ right → parts part <:+: right) (inside : part ∈ left ++ right) :
    parts part <:+: left ++ right := by
  rcases List.mem_append.mp inside with inside | inside
  · exact (atLeft inside).trans (List.prefix_append _ _).isInfix
  · exact (atRight inside).trans (List.suffix_append _ _).isInfix

end

/-! ### Expressions -/

namespace Expr

theorem listsParts : ListsParts subexpressions := by
  constructor
  · intro e
    cases e <;> rfl
  · intro e part
    induction e with
    | int n | name x => exact piece_of_cons rfl fun below => absurd below List.not_mem_nil
    | minus e ih | group e ih => exact piece_of_cons rfl ih
    | binary op l r ihl ihr => exact piece_of_cons rfl (piece_of_append ihl ihr)

/-- The names are those among the subexpressions. -/
theorem mem_names_iff {e : Expr} {x : String} : x ∈ e.names ↔ name x ∈ e.subexpressions := by
  induction e with
  | int n => simp [names, subexpressions]
  | name y => simp [names, subexpressions]
  | minus e ih | group e ih => simp [names, subexpressions, ih]
  | binary op l r ihl ihr => simp [names, subexpressions, ihl, ihr]

theorem names_subset {a part : Expr} (inside : part ∈ a.subexpressions) : part.names ⊆ a.names := by
  intro x named
  rw [mem_names_iff] at named ⊢
  exact listsParts.subset inside named

end Expr

/-! ### Conditions -/

namespace Condition

theorem listsParts : ListsParts subformulas := by
  constructor
  · intro c
    cases c <;> rfl
  · intro c part
    induction c with
    | constant k | bare e | compare e op e' =>
      exact piece_of_cons rfl fun below => absurd below List.not_mem_nil
    | unary op c ih | group c ih => exact piece_of_cons rfl ih
    | binary op l r ihl ihr => exact piece_of_cons rfl (piece_of_append ihl ihr)

/-- The expressions that a comparison is between, or the one that stands alone. -/
def sides : Condition → List Expr
  | bare e => [e]
  | compare l _ r => [l, r]
  | _ => []

/-- The names are those on the sides of all comparisons that occur. -/
theorem mem_names_iff {c : Condition} {x : String} :
    x ∈ c.names ↔ ∃ d ∈ c.subformulas, ∃ e ∈ d.sides, .name x ∈ e.subexpressions := by
  induction c with
  | constant k => simp [names, subformulas, sides]
  | bare e | compare e op e' => simp [names, subformulas, sides, Expr.mem_names_iff]
  | unary op c ih | group c ih => simp [names, subformulas, sides, ih]
  | binary op l r ihl ihr => simp [names, subformulas, sides, ihl, ihr, or_and_right, exists_or]

theorem names_subset {a part : Condition} (inside : part ∈ a.subformulas) : part.names ⊆ a.names := by
  intro x named
  rw [mem_names_iff] at named ⊢
  obtain ⟨d, occurs, side⟩ := named
  exact ⟨d, listsParts.subset inside occurs, side⟩

theorem isPure_iff (c : Condition) : c.isPure ↔ ∀ d ∈ c.subformulas, ¬ d.isNext ∧ ¬ d.isUntil := by
  simp [isPure]

end Condition

/-! ### The order -/

/-- Being one of the parts is a partial order, and a part has no name that the whole has not. -/
structure OrderedByParts {α : Type u} (parts : α → List α) (names : α → List String) : Prop where
  refl : ∀ a, a ∈ parts a
  subset : ∀ a b, b ∈ parts a → parts b ⊆ parts a
  antisymm : ∀ a b, a ∈ parts b → b ∈ parts a → a = b
  names_subset : ∀ a b, b ∈ parts a → names b ⊆ names a

theorem ListsParts.ordered {α : Type u} {parts : α → List α} {names : α → List String}
    (h : ListsParts parts) (names_subset : ∀ {a b}, b ∈ parts a → names b ⊆ names a) :
    OrderedByParts parts names where
  refl := h.mem_self
  subset := fun _ _ inside => h.subset inside
  antisymm := fun _ _ inside around => h.antisymm inside around
  names_subset := fun _ _ inside => names_subset inside

/-- Conditions are ordered by the conditions that occur in them, and expressions by the expressions. -/
theorem occurrence_ordered :
    OrderedByParts Condition.subformulas Condition.names ∧
      OrderedByParts Expr.subexpressions Expr.names :=
  ⟨Condition.listsParts.ordered Condition.names_subset, Expr.listsParts.ordered Expr.names_subset⟩

end TemporalQuery
