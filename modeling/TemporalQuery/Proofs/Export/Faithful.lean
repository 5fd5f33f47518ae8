import TemporalQuery.Tree
import TemporalQuery.Value
import TemporalQuery.Proofs.Export.Indented

/-!
# Faithful trees

Two expressions, conditions, bounds or queries are equal just if their trees are, as plain data in which
the order of fields does not count (`export_faithful`). Equality goes class by class and the trees name the
class of each node, so both come down to having the same nodes. Trees that are not equal are not written
alike either.
-/

namespace TemporalQuery

namespace Json

mutual

/-- Equality of plain data: fields are told by their names, and a truth value equals its number. -/
def agrees : Json → Json → Bool
  | null, null => true
  | bool a, bool b => a = b
  | bool b, int n | int n, bool b => b.toInt = n
  | int m, int n => m = n
  | str s, str t => s = t
  | arr items, arr items' => agreeItems items items'
  | obj fields, obj fields' => fields.length = fields'.length && agreeFields fields fields'
  | _, _ => false

def agreeItems : List Json → List Json → Bool
  | [], [] => true
  | j :: js, k :: ks => j.agrees k && agreeItems js ks
  | _, _ => false

/-- Whether `others` has each of the fields, with a value equal to it. -/
def agreeFields : List (String × Json) → List (String × Json) → Bool
  | [], _ => true
  | (key, j) :: fields, others =>
    others.any (fun other => key = other.1 && j.agrees other.2) && agreeFields fields others

end

theorem null_agrees_iff (j : Json) : null.agrees j ↔ j = null := by
  cases j <;> simp [agrees]

theorem agrees_null_iff (j : Json) : j.agrees null ↔ j = null := by
  cases j <;> simp [agrees]

theorem int_agrees_int (m n : Int) : (int m).agrees (int n) ↔ m = n := by
  simp [agrees]

theorem str_agrees_str (s t : String) : (str s).agrees (str t) ↔ s = t := by
  simp [agrees]

theorem agreeFields_iff (fields others : List (String × Json)) :
    agreeFields fields others ↔
      ∀ field ∈ fields, ∃ other ∈ others, field.1 = other.1 ∧ field.2.agrees other.2 := by
  induction fields with
  | nil => simp [agreeFields]
  | cons field fields ih => simp [agreeFields, ih]

theorem obj_agrees_obj (fields fields' : List (String × Json)) :
    (obj fields).agrees (obj fields') ↔ fields.length = fields'.length ∧
      ∀ field ∈ fields, ∃ field' ∈ fields', field.1 = field'.1 ∧ field.2.agrees field'.2 := by
  rw [← agreeFields_iff]
  simp [agrees]

example : (obj [("max", int 1), ("bound", null)]).agrees (obj [("bound", null), ("max", bool true)]) := by
  decide

/-- Nodes agree if their classes do and their parts do. -/
theorem node_agrees_node {kind kind' : String} {parts parts' : List (String × Json)}
    (fresh : ∀ part ∈ parts, part.1 ≠ "type") (fresh' : ∀ part ∈ parts', part.1 ≠ "type") :
    (node kind parts).agrees (node kind' parts') ↔
      kind = kind' ∧ (obj parts).agrees (obj parts') := by
  have types :
      (∃ other ∈ ("type", str kind') :: parts', "type" = other.1 ∧ (str kind).agrees other.2) ↔
        kind = kind' := by
    constructor
    · rintro ⟨other, member, named, agree⟩
      rcases List.mem_cons.mp member with rfl | member
      · exact (str_agrees_str kind kind').mp agree
      · exact absurd named.symm (fresh' other member)
    · intro same
      exact ⟨_, List.mem_cons_self, rfl, (str_agrees_str kind kind').mpr same⟩
  have others : ∀ part ∈ parts,
      (∃ other ∈ ("type", str kind') :: parts', part.1 = other.1 ∧ part.2.agrees other.2) ↔
        ∃ other ∈ parts', part.1 = other.1 ∧ part.2.agrees other.2 := by
    intro part member
    simp [fresh part member]
  rw [node, node, obj_agrees_obj, obj_agrees_obj, List.forall_mem_cons, types, forall₂_congr others,
    List.length_cons, List.length_cons, Nat.succ_inj]
  exact and_left_comm

theorem ofOption_agrees_iff {α : Type} {write : α → Json} (present : ∀ a, write a ≠ null)
    (told : ∀ a b, (write a).agrees (write b) ↔ a = b) (x y : Option α) :
    (ofOption (x.map write)).agrees (ofOption (y.map write)) ↔ x = y := by
  cases x with
  | none => cases y <;> simp [ofOption, null_agrees_iff, present]
  | some a =>
    cases y with
    | none => simp [ofOption, agrees_null_iff, present]
    | some b => simp [ofOption, told]

end Json

open Json

/-! ### Classes -/

theorem ArithOp.nodeKind_inj {op op' : ArithOp} (same : op.nodeKind = op'.nodeKind) : op = op' := by
  cases op <;> cases op' <;> simp_all [nodeKind]

theorem Connective.nodeKind_inj {op op' : Connective} (same : op.nodeKind = op'.nodeKind) :
    op = op' := by
  cases op <;> cases op' <;> simp_all [nodeKind]

theorem UnaryOp.nodeKind_inj {op op' : UnaryOp} (same : op.nodeKind = op'.nodeKind) : op = op' := by
  cases op <;> cases op' <;> simp_all [nodeKind]

theorem Constant.nodeKind_inj {k k' : Constant} (same : k.nodeKind = k'.nodeKind) : k = k' := by
  cases k <;> cases k' <;> simp_all [nodeKind]

theorem UnaryOp.nodeKind_ne_constant (op : UnaryOp) (k : Constant) : op.nodeKind ≠ k.nodeKind := by
  cases op <;> cases k <;> simp [nodeKind, Constant.nodeKind]

theorem Connective.nodeKind_ne_constant (op : Connective) (k : Constant) :
    op.nodeKind ≠ k.nodeKind := by
  cases op <;> cases k <;> simp [nodeKind, Constant.nodeKind]

theorem Connective.nodeKind_ne_unary (op : Connective) (op' : UnaryOp) :
    op.nodeKind ≠ op'.nodeKind := by
  cases op <;> cases op' <;> simp [nodeKind, UnaryOp.nodeKind]

theorem RelOp.symbol_inj {op op' : RelOp} : op.symbol = op'.symbol ↔ op = op' := by
  cases op <;> cases op' <;> simp [symbol]

theorem Quantifier.symbol_inj {q q' : Quantifier} : q.symbol = q'.symbol ↔ q = q' := by
  cases q <;> cases q' <;> simp [symbol]

theorem Modality.symbol_inj {m m' : Modality} : m.symbol = m'.symbol ↔ m = m' := by
  cases m <;> cases m' <;> simp [symbol]

/-! ### Expressions -/

namespace Expr

theorem exists_tree (e : Expr) :
    ∃ parts, (∀ part ∈ parts, part.1 ≠ "type") ∧ e.tree = node e.nodeKind parts := by
  cases e <;> refine ⟨_, ?_, rfl⟩ <;> simp

/-- Of one class; the parts may differ. -/
inductive Akin : Expr → Expr → Prop
  | int (m n : Nat) : Akin (int m) (int n)
  | name (x y : String) : Akin (name x) (name y)
  | minus (a b : Expr) : Akin (minus a) (minus b)
  | group (a b : Expr) : Akin (group a) (group b)
  | binary (op : ArithOp) (a b a' b' : Expr) : Akin (binary op a b) (binary op a' b')

theorem akin_of_agrees {a b : Expr} (agree : a.tree.agrees b.tree) : Akin a b := by
  obtain ⟨parts, fresh, tree⟩ := a.exists_tree
  obtain ⟨parts', fresh', tree'⟩ := b.exists_tree
  rw [tree, tree', node_agrees_node fresh fresh'] at agree
  have kinds := agree.1
  -- The type of a node names its class, so all other classes are out.
  cases a with
  | int | name | minus | group =>
    cases b with
    | int | name | minus | group => first | constructor | exact absurd kinds (by simp [nodeKind])
    | binary op => cases op <;> exact absurd kinds (by simp [nodeKind, ArithOp.nodeKind])
  | binary op =>
    cases b with
    | int | name | minus | group =>
      cases op <;> exact absurd kinds (by simp [nodeKind, ArithOp.nodeKind])
    | binary op' =>
      obtain rfl : op = op' := ArithOp.nodeKind_inj kinds
      exact .binary ..

theorem minus_agrees_minus (a b : Expr) :
    (minus a).tree.agrees (minus b).tree ↔ a.tree.agrees b.tree := by
  simp [tree, node_agrees_node, obj_agrees_obj]

theorem group_agrees_group (a b : Expr) :
    (group a).tree.agrees (group b).tree ↔ a.tree.agrees b.tree := by
  simp [tree, node_agrees_node, obj_agrees_obj]

theorem binary_agrees_binary (op : ArithOp) (a b a' b' : Expr) :
    (binary op a b).tree.agrees (binary op a' b').tree ↔
      a.tree.agrees a'.tree ∧ b.tree.agrees b'.tree := by
  simp [tree, node_agrees_node, obj_agrees_obj, str_agrees_str]

theorem agrees_self (e : Expr) : e.tree.agrees e.tree := by
  induction e with
  | int | name => simp [tree, node_agrees_node, obj_agrees_obj, int_agrees_int, str_agrees_str]
  | minus e ih => exact (minus_agrees_minus e e).mpr ih
  | group e ih => exact (group_agrees_group e e).mpr ih
  | binary op l r ihl ihr => exact (binary_agrees_binary op l r l r).mpr ⟨ihl, ihr⟩

theorem eq_of_agrees {a b : Expr} (agree : a.tree.agrees b.tree) : a = b := by
  induction a generalizing b with
  | int m =>
    cases akin_of_agrees agree with
    | int _ n => simpa [tree, node_agrees_node, obj_agrees_obj, int_agrees_int] using agree
  | name x =>
    cases akin_of_agrees agree with
    | name _ y => simpa [tree, node_agrees_node, obj_agrees_obj, str_agrees_str] using agree
  | minus a ih =>
    cases akin_of_agrees agree with
    | minus _ b => rw [ih ((minus_agrees_minus a b).mp agree)]
  | group a ih =>
    cases akin_of_agrees agree with
    | group _ b => rw [ih ((group_agrees_group a b).mp agree)]
  | binary op l r ihl ihr =>
    cases akin_of_agrees agree with
    | binary _ _ _ l' r' =>
      obtain ⟨left, right⟩ := (binary_agrees_binary op l r l' r').mp agree
      rw [ihl left, ihr right]

theorem tree_agrees_iff (a b : Expr) : a.tree.agrees b.tree ↔ a = b := by
  constructor
  · exact eq_of_agrees
  · rintro rfl
    exact a.agrees_self

end Expr

/-! ### Conditions -/

namespace Condition

theorem exists_tree (c : Condition) :
    ∃ parts, (∀ part ∈ parts, part.1 ≠ "type") ∧ c.tree = node c.nodeKind parts := by
  cases c <;> refine ⟨_, ?_, rfl⟩ <;> simp

/-- Of one class, and comparisons both with an operator or both without; the parts may differ. -/
inductive Akin : Condition → Condition → Prop
  | constant (k : Constant) : Akin (constant k) (constant k)
  | bare (e e' : Expr) : Akin (bare e) (bare e')
  | compare (op op' : RelOp) (a b a' b' : Expr) : Akin (compare a op b) (compare a' op' b')
  | unary (op : UnaryOp) (c c' : Condition) : Akin (unary op c) (unary op c')
  | group (c c' : Condition) : Akin (group c) (group c')
  | binary (op : Connective) (l r l' r' : Condition) : Akin (binary op l r) (binary op l' r')

theorem bare_agrees_bare (e e' : Expr) : (bare e).tree.agrees (bare e').tree ↔ e = e' := by
  simp [tree, node_agrees_node, obj_agrees_obj, null_agrees_iff, Expr.tree_agrees_iff]

theorem compare_agrees_compare (op op' : RelOp) (a b a' b' : Expr) :
    (compare a op b).tree.agrees (compare a' op' b').tree ↔ a = a' ∧ op = op' ∧ b = b' := by
  simp [tree, node_agrees_node, obj_agrees_obj, str_agrees_str, RelOp.symbol_inj,
    Expr.tree_agrees_iff]

theorem not_bare_agrees_compare (op : RelOp) (e a b : Expr) :
    ¬ (bare e).tree.agrees (compare a op b).tree := by
  simp [tree, node_agrees_node, obj_agrees_obj, null_agrees_iff]

theorem not_compare_agrees_bare (op : RelOp) (e a b : Expr) :
    ¬ (compare a op b).tree.agrees (bare e).tree := by
  simp [tree, node_agrees_node, obj_agrees_obj, agrees_null_iff]

theorem unary_agrees_unary (op : UnaryOp) (c c' : Condition) :
    (unary op c).tree.agrees (unary op c').tree ↔ c.tree.agrees c'.tree := by
  simp [tree, node_agrees_node, obj_agrees_obj]

theorem group_agrees_group (c c' : Condition) :
    (group c).tree.agrees (group c').tree ↔ c.tree.agrees c'.tree := by
  simp [tree, node_agrees_node, obj_agrees_obj]

theorem binary_agrees_binary (op : Connective) (l r l' r' : Condition) :
    (binary op l r).tree.agrees (binary op l' r').tree ↔
      l.tree.agrees l'.tree ∧ r.tree.agrees r'.tree := by
  simp [tree, node_agrees_node, obj_agrees_obj, str_agrees_str]

theorem akin_of_agrees {c d : Condition} (agree : c.tree.agrees d.tree) : Akin c d := by
  have kinds : c.nodeKind = d.nodeKind := by
    obtain ⟨parts, fresh, tree⟩ := c.exists_tree
    obtain ⟨parts', fresh', tree'⟩ := d.exists_tree
    rw [tree, tree', node_agrees_node fresh fresh'] at agree
    exact agree.1
  -- Comparisons of both sorts are one class; the operator of a bare expression is missing in the tree.
  cases c with
  | constant k =>
    cases d with
    | constant k' =>
      obtain rfl : k = k' := Constant.nodeKind_inj kinds
      exact .constant k
    | bare | compare | group =>
      cases k <;> exact absurd kinds (by simp [nodeKind, Constant.nodeKind])
    | unary op => exact absurd kinds.symm (op.nodeKind_ne_constant k)
    | binary op => exact absurd kinds.symm (op.nodeKind_ne_constant k)
  | bare | compare =>
    cases d with
    | bare => first | exact .bare .. | exact absurd agree (not_compare_agrees_bare _ _ _ _)
    | compare => first | exact .compare .. | exact absurd agree (not_bare_agrees_compare _ _ _ _)
    | group => exact absurd kinds (by simp [nodeKind])
    | constant k => cases k <;> exact absurd kinds (by simp [nodeKind, Constant.nodeKind])
    | unary op => cases op <;> exact absurd kinds (by simp [nodeKind, UnaryOp.nodeKind])
    | binary op => cases op <;> exact absurd kinds (by simp [nodeKind, Connective.nodeKind])
  | unary op c =>
    cases d with
    | unary op' d =>
      obtain rfl : op = op' := UnaryOp.nodeKind_inj kinds
      exact .unary ..
    | bare | compare | group => cases op <;> exact absurd kinds (by simp [nodeKind, UnaryOp.nodeKind])
    | constant k => exact absurd kinds (op.nodeKind_ne_constant k)
    | binary op' => exact absurd kinds.symm (op'.nodeKind_ne_unary op)
  | group =>
    cases d with
    | group => exact .group ..
    | bare | compare => exact absurd kinds (by simp [nodeKind])
    | constant k => cases k <;> exact absurd kinds (by simp [nodeKind, Constant.nodeKind])
    | unary op => cases op <;> exact absurd kinds (by simp [nodeKind, UnaryOp.nodeKind])
    | binary op => cases op <;> exact absurd kinds (by simp [nodeKind, Connective.nodeKind])
  | binary op =>
    cases d with
    | binary op' =>
      obtain rfl : op = op' := Connective.nodeKind_inj kinds
      exact .binary ..
    | bare | compare | group =>
      cases op <;> exact absurd kinds (by simp [nodeKind, Connective.nodeKind])
    | constant k => exact absurd kinds (op.nodeKind_ne_constant k)
    | unary op' => exact absurd kinds (op.nodeKind_ne_unary op')

theorem agrees_self (c : Condition) : c.tree.agrees c.tree := by
  induction c with
  | constant k => simp [tree, node_agrees_node, obj_agrees_obj]
  | bare e => exact (bare_agrees_bare e e).mpr rfl
  | compare a op b => exact (compare_agrees_compare op op a b a b).mpr ⟨rfl, rfl, rfl⟩
  | unary op c ih => exact (unary_agrees_unary op c c).mpr ih
  | group c ih => exact (group_agrees_group c c).mpr ih
  | binary op l r ihl ihr => exact (binary_agrees_binary op l r l r).mpr ⟨ihl, ihr⟩

theorem eq_of_agrees {c d : Condition} (agree : c.tree.agrees d.tree) : c = d := by
  induction c generalizing d with
  | constant k =>
    cases akin_of_agrees agree with
    | constant => rfl
  | bare e =>
    cases akin_of_agrees agree with
    | bare _ e' => rw [(bare_agrees_bare e e').mp agree]
  | compare a op b =>
    cases akin_of_agrees agree with
    | compare _ op' _ _ a' b' =>
      obtain ⟨rfl, rfl, rfl⟩ := (compare_agrees_compare op op' a b a' b').mp agree
      rfl
  | unary op c ih =>
    cases akin_of_agrees agree with
    | unary _ _ d => rw [ih ((unary_agrees_unary op c d).mp agree)]
  | group c ih =>
    cases akin_of_agrees agree with
    | group _ d => rw [ih ((group_agrees_group c d).mp agree)]
  | binary op l r ihl ihr =>
    cases akin_of_agrees agree with
    | binary _ _ _ l' r' =>
      obtain ⟨left, right⟩ := (binary_agrees_binary op l r l' r').mp agree
      rw [ihl left, ihr right]

theorem tree_agrees_iff (c d : Condition) : c.tree.agrees d.tree ↔ c = d := by
  constructor
  · exact eq_of_agrees
  · rintro rfl
    exact c.agrees_self

end Condition

/-! ### Bounds and queries -/

theorem Bound.tree_agrees_iff (a b : Bound) : a.tree.agrees b.tree ↔ a = b := by
  cases a <;> cases b <;> simp [tree, node_agrees_node, obj_agrees_obj, int_agrees_int]

theorem Query.tree_agrees_iff (p q : Query) : p.tree.agrees q.tree ↔ p = q := by
  have quantifiers := ofOption_agrees_iff (fun _ => Json.noConfusion)
    (fun a b : Quantifier => (str_agrees_str a.symbol b.symbol).trans Quantifier.symbol_inj)
    p.quantifier q.quantifier
  have modalities := ofOption_agrees_iff (fun _ => Json.noConfusion)
    (fun a b : Modality => (str_agrees_str a.symbol b.symbol).trans Modality.symbol_inj)
    p.modality q.modality
  have bounds := ofOption_agrees_iff (fun b => by cases b <;> exact Json.noConfusion)
    Bound.tree_agrees_iff p.bound q.bound
  have fields : p.tree.agrees q.tree ↔
      p.quantifier = q.quantifier ∧ p.modality = q.modality ∧ p.bound = q.bound ∧
        p.condition = q.condition := by
    simp [tree, obj_agrees_obj, quantifiers, modalities, bounds, Condition.tree_agrees_iff]
  cases p
  cases q
  rw [fields, Query.mk.injEq]
  tauto

/-- Equality of what `value` makes a value of, its tree as plain data and its tree as it is printed. -/
structure FaithfulExport {α : Type} (value : α → Value) (tree : α → Json) : Prop where
  equals_iff_agrees : ∀ a b, (value a).equals (value b) ↔ (tree a).agrees (tree b)
  equals_iff_eq : ∀ a b, (value a).equals (value b) ↔ a = b
  print_injective : ∀ depth, Function.Injective fun a => (tree a).indented depth

theorem FaithfulExport.of_agrees {α : Type} {value : α → Value} {tree : α → Json}
    (equals : ∀ a b, (value a).equals (value b) ↔ a = b)
    (agrees : ∀ a b, (tree a).agrees (tree b) ↔ a = b) : FaithfulExport value tree where
  equals_iff_agrees a b := (equals a b).trans (agrees a b).symm
  equals_iff_eq := equals
  print_injective depth a b printed := by
    have same : tree a = tree b := indented_injective depth printed
    rw [← agrees, ← same]
    exact (agrees a a).mpr rfl

/-- Equality, agreement of the trees and equality of what is printed are one and the same, for each kind of
syntax. Identifiers are texts of Unicode scalar values throughout; one with a lone surrogate, which no query
is parsed to, is outside of `print_injective`. -/
theorem export_faithful :
    FaithfulExport Value.expr Expr.tree ∧ FaithfulExport Value.condition Condition.tree ∧
      FaithfulExport Value.bound Bound.tree ∧ FaithfulExport Value.query Query.tree :=
  ⟨.of_agrees Expr.equals_iff Expr.tree_agrees_iff,
    .of_agrees Condition.equals_iff Condition.tree_agrees_iff,
    .of_agrees (fun _ _ => decide_eq_true_iff) Bound.tree_agrees_iff,
    .of_agrees Query.equals_iff Query.tree_agrees_iff⟩

end TemporalQuery
