import TemporalQuery.Proofs.Building
import TemporalQuery.Proofs.Reading.Location

/-!
# Every text has an answer

Reading gives a query or a failure that stands within the text (`Query.parse_total`). What it holds on the
way is made of the tokens it has read (`State.madeOf_of_run`), and all that is made of the tokens of a
text passes the checks of its parts, so none of them fails, whether the text is accepted or refused.
-/

namespace TemporalQuery

/-! ### What is held while reading -/

def Expr.MadeOf (ts : List Token) (e : Expr) : Prop := ∃ t : ExprTree .chain, t.expr = e ∧ t.tokens ⊆ ts

def Condition.MadeOf (ts : List Token) (c : Condition) : Prop :=
  ∃ t : CondTree .chain, t.cond = c ∧ t.tokens ⊆ ts

namespace Reading

def ExprHole.exprs (hole : ExprHole) : List Expr := hole.chain.toList.map (·.1)

def CondHole.conditions (hole : CondHole) : List Condition := hole.chain.toList.map (·.1)

def ExprPlace.exprs (p : ExprPlace) : List Expr :=
  p.compared.toList.map (·.1) ++ p.groups.flatMap (·.hole.exprs)

def ExprPlace.conditions (p : ExprPlace) : List Condition :=
  p.cond.hole.conditions ++ p.cond.groups.flatMap (·.hole.conditions)

def Body.exprs : Body → List Expr
  | operand p hole => hole.exprs ++ p.exprs
  | expr p e => e :: p.exprs
  | _ => []

def Body.conditions : Body → List Condition
  | operand p _ | expr p _ => p.conditions
  | cond groups c => c :: groups.flatMap (·.hole.conditions)
  | symbol .. => []

def State.exprs : State → List Expr
  | body _ _ _ c => c.exprs
  | _ => []

def State.conditions : State → List Condition
  | body _ _ _ c => c.conditions
  | _ => []

variable {ts us : List Token}

theorem ExprHole.Taken.madeOf {hole : ExprHole} (h : hole.Taken ts) (inside : ts ⊆ us) :
    ∀ e ∈ hole.exprs, e.MadeOf us := by
  obtain ⟨chain, minus⟩ := hole
  cases chain with
  | none => simp [exprs]
  | some r =>
    obtain ⟨t, same, rfl⟩ := h
    rintro e mem
    obtain rfl : e = r.1 := by simpa [exprs] using mem
    exact ⟨t, same, List.Subset.trans (List.subset_append_left _ _) inside⟩

theorem CondHole.Taken.madeOf {hole : CondHole} (h : hole.Taken ts) (inside : ts ⊆ us) :
    ∀ c ∈ hole.conditions, c.MadeOf us := by
  obtain ⟨chain, unary⟩ := hole
  obtain ⟨vs, ws, rfl, chained, _⟩ := h
  cases chain with
  | none => simp [conditions]
  | some r =>
    obtain ⟨t, _, same, s, rfl⟩ := chained
    rintro c mem
    obtain rfl : c = r.1 := by simpa [conditions] using mem
    refine ⟨t, same, fun u here => inside ?_⟩
    simp [here]

theorem GroupsTaken.forall_parts {α β : Type} {holeTaken : α → List Token → Prop}
    {parts : α → List β} {Made : β → Prop} {groups : List (Opened α)}
    (hole : ∀ h vs, holeTaken h vs → vs ⊆ us → ∀ x ∈ parts h, Made x)
    (taken : GroupsTaken holeTaken groups ts) (inside : ts ⊆ us) :
    ∀ x ∈ groups.flatMap fun g => parts g.hole, Made x := by
  induction taken with
  | nil => simp
  | cons _ first ih =>
    obtain ⟨outer, inner⟩ := List.append_subset.mp inside
    rw [List.flatMap_cons, List.forall_mem_append]
    exact ⟨hole _ _ first (List.Subset.trans (List.subset_append_left _ _) inner), ih outer⟩

theorem ExprPlace.Taken.madeOf {p : ExprPlace} (h : p.Taken ts) (inside : ts ⊆ us) :
    (∀ e ∈ p.exprs, e.MadeOf us) ∧ ∀ c ∈ p.conditions, c.MadeOf us := by
  obtain ⟨gs, cs, rs, es, rfl, groupsTaken, holeTaken, comparedTaken, innerTaken⟩ := h
  simp only [List.append_subset] at inside
  obtain ⟨groups, hole, compared, inner⟩ := inside
  constructor
  · rw [exprs, List.forall_mem_append]
    refine ⟨?_, innerTaken.forall_parts (fun _ _ h => h.madeOf) inner⟩
    cases left : p.compared with
    | none => simp
    | some r =>
      rw [left] at comparedTaken
      obtain ⟨t, same, s, rfl⟩ := comparedTaken
      rintro e mem
      obtain rfl : e = r.1 := by simpa using mem
      exact ⟨t, same, (List.append_subset.mp compared).1⟩
  · rw [conditions, List.forall_mem_append]
    exact ⟨holeTaken.madeOf hole, groupsTaken.forall_parts (fun _ _ h => h.madeOf) groups⟩

theorem Body.Taken.madeOf {b : Body} (h : b.Taken ts) (inside : ts ⊆ us) :
    (∀ e ∈ b.exprs, e.MadeOf us) ∧ ∀ c ∈ b.conditions, c.MadeOf us := by
  cases b with
  | operand p hole =>
    obtain ⟨vs, ws, rfl, place, holeTaken⟩ := h
    obtain ⟨left, right⟩ := List.append_subset.mp inside
    obtain ⟨exprs, conditions⟩ := place.madeOf left
    exact ⟨List.forall_mem_append.mpr ⟨holeTaken.madeOf right, exprs⟩, conditions⟩
  | expr p e =>
    obtain ⟨vs, t, rfl, place, same⟩ := h
    obtain ⟨left, right⟩ := List.append_subset.mp inside
    obtain ⟨exprs, conditions⟩ := place.madeOf left
    exact ⟨List.forall_mem_cons.mpr ⟨⟨t, same, right⟩, exprs⟩, conditions⟩
  | cond groups c =>
    obtain ⟨vs, t, rfl, groupsTaken, _, same, _⟩ := h
    obtain ⟨left, right⟩ := List.append_subset.mp inside
    exact ⟨by simp [Body.exprs], List.forall_mem_cons.mpr
      ⟨⟨t, same, right⟩, groupsTaken.forall_parts (fun _ _ h => h.madeOf) left⟩⟩
  | symbol x index => exact ⟨by simp [Body.exprs], by simp [Body.conditions]⟩

/-- What a state holds is made of the tokens that were read. -/
theorem State.madeOf_of_run {ls : List Lexeme} {s : State} (ran : start.run ls = .ok s) :
    (∀ e ∈ s.exprs, e.MadeOf (ls.map (·.token))) ∧
      ∀ c ∈ s.conditions, c.MadeOf (ls.map (·.token)) := by
  have taken : s.Taken (ls.map (·.token)) := taken_run taken_initial ran
  cases s with
  | body q m b c =>
    obtain ⟨us, vs, ws, split, _, _, bodyTaken, _⟩ := taken
    refine bodyTaken.madeOf fun t mem => ?_
    rw [split]
    simp [mem]
  | _ => exact ⟨by simp [exprs], by simp [conditions]⟩

end Reading

/-! ### Texts -/

open Reading

theorem Query.index_le_of_parse {text : String} {f : Failure} (h : parse text = .error f) :
    f.index ≤ text.length := by
  cases stands_of_parse h with
  | atEnd kind index => exact index.le
  | atFault cause found => exact (lex_fault_lt found).le
  | atLexeme split index =>
    obtain ⟨_, nonempty, inside, _⟩ := (ordered_lex text).around split
    rw [← index]
    exact nonempty.le.trans inside

/-- The text is lexed to its end and read as a query that can be built step by step, or it has an error of
one of four kinds, within the text. What is held after any of its lexemes is made of their tokens, and no
step of building what is made of the tokens of a text fails. -/
theorem Query.parse_total (text : String) :
    (match parse text with
      | .ok q => (lex text).fault = none ∧
        ∃ d : Derivation (lex text).tokens, d.query = q ∧ d.recipe.build = .ok (.query q)
      | .error f =>
        let e := f.report text
        e.kind ∈ [ErrorKind.lexer, .literalRange, .parse, .trailingInput] ∧
          0 ≤ e.index ∧ e.index ≤ text.length ∧ e.position = position text e.index ∧
          e.message ≠ "Syntax error: could not parse query") ∧
    (∀ us vs s, (lex text).lexemes = us ++ vs → State.start.run us = .ok s →
      (∀ e ∈ s.exprs, e.MadeOf (us.map (·.token))) ∧
      ∀ c ∈ s.conditions, c.MadeOf (us.map (·.token))) ∧
    (∀ l (t : ExprTree l), t.tokens ⊆ (lex text).tokens → t.recipe.build = .ok (.expr t.expr)) ∧
    (∀ l (t : CondTree l), t.tokens ⊆ (lex text).tokens → t.recipe.build = .ok (.condition t.cond)) ∧
    (∀ op s, .relation op s ∈ (lex text).tokens → RelOp.ofValue (.text s) = .ok op) ∧
    (∀ n : Nat, .int n ∈ (lex text).tokens → ∀ part, (Value.int n).toInt part = .ok n) ∧
    ∀ ts (d : Derivation ts), ts ⊆ (lex text).tokens → d.recipe.build = .ok (.query d.query) := by
  have checked : ∀ t ∈ (lex text).tokens, t.Checked := Lexeme.checked_of_mem_lexFrom
  refine ⟨?_, fun us vs s _ ran => State.madeOf_of_run ran,
    fun l t inside => t.build_recipe fun u mem => checked u (inside mem),
    fun l t inside => t.build_recipe fun u mem => checked u (inside mem),
    fun op s mem => RelOp.ofValue_of_faithful (checked _ mem).faithful,
    fun n mem part => Value.toInt_of_le (checked _ mem).writable part,
    fun ts d inside => d.build_recipe fun t mem => checked t (inside mem)⟩
  cases parsed : parse text with
  | ok q =>
    obtain ⟨clean, d, rfl⟩ := parse_eq_ok_iff.mp parsed
    exact ⟨clean, d, rfl, d.build_recipe checked⟩
  | error f =>
    exact ⟨f.cause.kind_mem, Int.natCast_nonneg _, Int.ofNat_le.mpr (index_le_of_parse parsed), rfl,
      f.cause.message_ne_unknown⟩

end TemporalQuery
