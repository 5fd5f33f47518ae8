import TemporalQuery.Proofs.Canonical.ParseTree
import TemporalQuery.Proofs.Lexing.Segmentation
import TemporalQuery.Proofs.Reading.Acceptance
import Mathlib.Data.List.Basic

/-!
# Chains

The operators of a chain all bind alike and from the left. So of two texts joined by an operator the
first one becomes, as a whole, an operand of it, and the other operand is the leftmost one of the second
(`Query.parse_joined`).
-/

namespace TemporalQuery

open Lexeme

/-! ### The leftmost operand -/

/-- What stands first in a chain of connectives: what no connective joins. -/
def Condition.leftmost : Condition → Condition
  | binary _ l _ => l.leftmost
  | c => c

/-- The chain with `first` in place of its leftmost operand. -/
def Condition.withLeftmost : Condition → Condition → Condition
  | binary op l r, first => binary op (l.withLeftmost first) r
  | _, first => first

def Expr.leftmost : Expr → Expr
  | binary _ l _ => l.leftmost
  | e => e

def Expr.withLeftmost : Expr → Expr → Expr
  | binary op l r, first => binary op (l.withLeftmost first) r
  | _, first => first

theorem Condition.leftmost_of_not_isBinary {c : Condition} (h : ¬ c.isBinary) : c.leftmost = c := by
  cases c with
  | binary op l r => exact absurd rfl h
  | _ => rfl

theorem Condition.withLeftmost_of_not_isBinary {c : Condition} (h : ¬ c.isBinary)
    (first : Condition) : c.withLeftmost first = first := by
  cases c with
  | binary op l r => exact absurd rfl h
  | _ => rfl

theorem Expr.leftmost_of_not_isBinary {e : Expr} (h : ¬ e.isBinary) : e.leftmost = e := by
  cases e with
  | binary op l r => exact absurd rfl h
  | _ => rfl

theorem Expr.withLeftmost_of_not_isBinary {e : Expr} (h : ¬ e.isBinary) (first : Expr) :
    e.withLeftmost first = first := by
  cases e with
  | binary op l r => exact absurd rfl h
  | _ => rfl

namespace ExprTree

def leftmost : ExprTree .chain → ExprTree .atom
  | single a => a
  | link e _ _ => e.leftmost

def withLeftmost : ExprTree .chain → ExprTree .chain → ExprTree .chain
  | single _, first => first
  | link e op a, first => link (e.withLeftmost first) op a

theorem expr_leftmost (t : ExprTree .chain) : t.leftmost.expr = t.expr.leftmost := by
  fun_induction leftmost t with
  | case1 a => exact (Expr.leftmost_of_not_isBinary a.not_isBinary_expr).symm
  | case2 e op a ih => exact ih

theorem expr_withLeftmost (t first : ExprTree .chain) :
    (t.withLeftmost first).expr = t.expr.withLeftmost first.expr := by
  fun_induction withLeftmost t first with
  | case1 a first => exact (Expr.withLeftmost_of_not_isBinary a.not_isBinary_expr _).symm
  | case2 e op a first ih => exact congrArg (Expr.binary op · a.expr) ih

theorem tokens_withLeftmost {first : ExprTree .chain} (t : ExprTree .chain) {front : List Token}
    (h : first.tokens = front ++ t.leftmost.tokens) :
    (t.withLeftmost first).tokens = front ++ t.tokens := by
  fun_induction withLeftmost t first with
  | case1 a first =>
    rw [leftmost] at h
    exact h
  | case2 e op a first ih =>
    rw [leftmost] at h
    rw [tokens, ih h, tokens, List.append_assoc]

/-- The chain `t` behind the chain `left` and an operator. -/
def joined (left : ExprTree .chain) (op : ArithOp) (t : ExprTree .chain) : ExprTree .chain :=
  t.withLeftmost (.link left op t.leftmost)

theorem tokens_joined (left : ExprTree .chain) (op : ArithOp) (t : ExprTree .chain) :
    (joined left op t).tokens = left.tokens ++ .arith op :: t.tokens := by
  have first : (link left op t.leftmost).tokens = (left.tokens ++ [.arith op]) ++ t.leftmost.tokens := by
    simp [tokens]
  rw [joined, tokens_withLeftmost t first, List.append_assoc, List.singleton_append]

theorem expr_joined (left : ExprTree .chain) (op : ArithOp) (t : ExprTree .chain) :
    (joined left op t).expr = t.expr.withLeftmost (.binary op left.expr t.expr.leftmost) := by
  rw [joined, expr_withLeftmost, expr, expr_leftmost]

end ExprTree

namespace CondTree

def leftmost : CondTree .chain → CondTree .atom
  | single a => a
  | link c _ _ _ => c.leftmost

def withLeftmost : CondTree .chain → CondTree .chain → CondTree .chain
  | single _, first => first
  | link c op s a, first => link (c.withLeftmost first) op s a

theorem cond_leftmost (t : CondTree .chain) : t.leftmost.cond = t.cond.leftmost := by
  fun_induction leftmost t with
  | case1 a => exact (Condition.leftmost_of_not_isBinary a.not_isBinary_cond).symm
  | case2 c op s a ih => exact ih

theorem cond_withLeftmost (t first : CondTree .chain) :
    (t.withLeftmost first).cond = t.cond.withLeftmost first.cond := by
  fun_induction withLeftmost t first with
  | case1 a first => exact (Condition.withLeftmost_of_not_isBinary a.not_isBinary_cond _).symm
  | case2 c op s a first ih => exact congrArg (Condition.binary op · a.cond) ih

theorem tokens_withLeftmost {first : CondTree .chain} (t : CondTree .chain) {front : List Token}
    (h : first.tokens = front ++ t.leftmost.tokens) :
    (t.withLeftmost first).tokens = front ++ t.tokens := by
  fun_induction withLeftmost t first with
  | case1 a first =>
    rw [leftmost] at h
    exact h
  | case2 c op s a first ih =>
    rw [leftmost] at h
    rw [tokens, ih h, tokens, List.append_assoc]

theorem settled_leftmost {t : CondTree .chain} (h : t.Settled) : t.leftmost.Settled := by
  fun_induction leftmost t with
  | case1 a => exact h
  | case2 c op s a ih => exact ih h.1

theorem settled_withLeftmost {first t : CondTree .chain} (h : t.Settled) (h' : first.Settled) :
    (t.withLeftmost first).Settled := by
  fun_induction withLeftmost t first with
  | case1 a first => exact h'
  | case2 c op s a first ih => exact ⟨ih h.1 h', h.2⟩

def joined (left : CondTree .chain) (op : Connective) (s : String) (t : CondTree .chain) :
    CondTree .chain :=
  t.withLeftmost (.link left op s t.leftmost)

theorem tokens_joined (left : CondTree .chain) (op : Connective) (s : String) (t : CondTree .chain) :
    (joined left op s t).tokens = left.tokens ++ .connective op s :: t.tokens := by
  have first : (link left op s t.leftmost).tokens =
      (left.tokens ++ [.connective op s]) ++ t.leftmost.tokens := by
    simp [tokens]
  rw [joined, tokens_withLeftmost t first, List.append_assoc, List.singleton_append]

theorem cond_joined (left : CondTree .chain) (op : Connective) (s : String) (t : CondTree .chain) :
    (joined left op s t).cond = t.cond.withLeftmost (.binary op left.cond t.cond.leftmost) := by
  rw [joined, cond_withLeftmost, cond, cond_leftmost]

theorem settled_joined {left t : CondTree .chain} (h : left.Settled) (h' : t.Settled)
    (op : Connective) (s : String) : (joined left op s t).Settled :=
  settled_withLeftmost h' ⟨h, settled_leftmost h'⟩

/-- A condition that is an expression alone is the tree of that expression. -/
theorem exists_of_cond_eq_bare {t : CondTree .chain} {e : Expr} (h : t.cond = .bare e) :
    ∃ t' : ExprTree .chain, t = .single (.plain (.bare t')) ∧ t'.expr = e := by
  cases t with
  | link c op s a => cases h
  | single a =>
    cases a with
    | unary op s p => cases h
    | plain p =>
      cases p with
      | bare t' => exact ⟨t', rfl, Condition.bare.inj h⟩
      | _ => cases h

end CondTree

/-! ### Two chains and an operator -/

section

variable {ts us : List Token}

theorem HeadSpan.append {α : Type} {make : α → String → Token} {rest : List Token} {a : Option α}
    (h : HeadSpan make rest ts a) (nonempty : rest ≠ []) (us : List Token) :
    HeadSpan make (rest ++ us) ts a := by
  cases h with
  | present a s => exact .present a s
  | absent none =>
    refine .absent ?_
    rwa [List.head?_append_of_ne_nil rest nonempty]

theorem BoundSpan.append {rest : List Token} {b : Option Bound} (h : BoundSpan rest ts b)
    (nonempty : rest ≠ []) (us : List Token) : BoundSpan (rest ++ us) ts b := by
  cases h with
  | time s n => exact .time s n
  | steps s n => exact .steps s n
  | absent none =>
    refine .absent ?_
    rwa [List.head?_append_of_ne_nil rest nonempty]

namespace Derivation

/-- The derivation with a body that goes on behind the tokens of the old one. -/
def extended (d : Derivation ts) (body : CondTree .chain) (settled : body.Settled)
    (tokens : body.tokens = d.body.tokens ++ us) : Derivation (ts ++ us) where
  quantifierTokens := d.quantifierTokens
  modalityTokens := d.modalityTokens
  boundTokens := d.boundTokens
  body := body
  quantifier := d.quantifier
  modality := d.modality
  bound := d.bound
  split := by
    have split := congrArg (· ++ us) d.split
    simp only [List.append_assoc, ← tokens] at split
    exact split
  quantifierSpan := by
    have extended := d.quantifierSpan.append (by simp [d.body.tokens_ne_nil]) us
    rwa [List.append_assoc, List.append_assoc, ← tokens] at extended
  modalitySpan := by
    have extended := d.modalitySpan.append (by simp [d.body.tokens_ne_nil]) us
    rwa [List.append_assoc, ← tokens] at extended
  boundSpan := by
    have extended := d.boundSpan.append d.body.tokens_ne_nil us
    rwa [← tokens] at extended
  settled := settled

theorem query_extended (d : Derivation ts) (body : CondTree .chain) (settled : body.Settled)
    (tokens : body.tokens = d.body.tokens ++ us) :
    (d.extended body settled tokens).query = { d.query with condition := body.cond } := rfl

/-- A condition alone is all of the tokens. -/
theorem tokens_body (d : Derivation ts) {c : Condition} (plain : d.query = { condition := c }) :
    d.body.tokens = ts ∧ d.body.cond = c := by
  obtain ⟨cond, quantifier, modality, bound⟩ := Query.mk.inj plain
  have noQuantifier := d.quantifierSpan
  have noModality := d.modalitySpan
  have noBound := d.boundSpan
  rw [quantifier] at noQuantifier
  rw [modality] at noModality
  rw [bound] at noBound
  have split := d.split
  rw [noQuantifier.eq_nil, noModality.eq_nil, noBound.eq_nil] at split
  exact ⟨split.symm, cond⟩

/-- The chain of `e` stands behind a connective. -/
theorem exists_joined (d : Derivation ts) (e : Derivation us) {c : Condition}
    (plain : e.query = { condition := c }) (op : Connective) (s : String) :
    ∃ f : Derivation (ts ++ .connective op s :: us), f.query =
      { d.query with condition := c.withLeftmost (.binary op d.query.condition c.leftmost) } := by
  obtain ⟨all, rfl⟩ := e.tokens_body plain
  have tokens := CondTree.tokens_joined d.body op s e.body
  rw [all] at tokens
  refine ⟨d.extended _ (CondTree.settled_joined d.settled e.settled op s) tokens, ?_⟩
  rw [query_extended, CondTree.cond_joined]
  rfl

/-- The expression of `e` stands behind an arithmetic operator. -/
theorem exists_joined_expr (d : Derivation ts) (e : Derivation us) {a b : Expr}
    (left : d.query = { condition := .bare a }) (right : e.query = { condition := .bare b })
    (op : ArithOp) :
    ∃ f : Derivation (ts ++ .arith op :: us), f.query =
      { condition := .bare (b.withLeftmost (.binary op a b.leftmost)) } := by
  obtain ⟨leftAll, leftCond⟩ := d.tokens_body left
  obtain ⟨rightAll, rightCond⟩ := e.tokens_body right
  obtain ⟨t, leftTree, rfl⟩ := CondTree.exists_of_cond_eq_bare leftCond
  obtain ⟨u, rightTree, rfl⟩ := CondTree.exists_of_cond_eq_bare rightCond
  let body : CondTree .chain := .single (.plain (.bare (.joined t op u)))
  have settled : body.Settled := trivial
  have tokens : body.tokens = d.body.tokens ++ .arith op :: us := by
    rw [← rightAll, rightTree, leftTree]
    exact ExprTree.tokens_joined t op u
  refine ⟨d.extended body settled tokens, ?_⟩
  rw [query_extended, left, ← ExprTree.expr_joined]
  rfl

end Derivation

end

/-! ### Two texts and an operator -/

theorem Query.parse_joined_of_derivation {t u s : String} {op : Token} {q : Query}
    (clean : (lex t).fault = none) (clean' : (lex u).fault = none) (spelled : Spells s.toList [op])
    (joined : ∃ d : Derivation ((lex t).tokens ++ op :: (lex u).tokens), d.query = q) :
    parse (t ++ " " ++ s ++ " " ++ u) = .ok q := by
  have spells := (spells_lex clean).spaced (spelled.spaced (spells_lex clean'))
  have text : (t ++ " " ++ s ++ " " ++ u).toList =
      t.toList ++ ' ' :: (s.toList ++ ' ' :: u.toList) := by
    simp
  rw [← text] at spells
  obtain ⟨tokens, clean⟩ := spells 1 0
  exact parse_eq_ok_iff.mpr ⟨clean, by rwa [lex_eq_lexFrom, tokens]⟩

theorem Query.parse_connected {t u s w : String} {q : Query} {c : Condition} {op : Connective}
    (parsed : parse t = .ok q) (parsed' : parse u = .ok { condition := c })
    (spelling : Spelling s.toList (.ok (.connective op w))) :
    parse (t ++ " " ++ s ++ " " ++ u) =
      .ok { q with condition := c.withLeftmost (.binary op q.condition c.leftmost) } := by
  obtain ⟨clean, d, rfl⟩ := parse_eq_ok_iff.mp parsed
  obtain ⟨clean', e, plain⟩ := parse_eq_ok_iff.mp parsed'
  exact parse_joined_of_derivation clean clean' spelling.spells (d.exists_joined e plain op w)

theorem Query.parse_calculated {t u : String} {a b : Expr}
    (parsed : parse t = .ok { condition := .bare a }) (parsed' : parse u = .ok { condition := .bare b })
    (op : ArithOp) : parse (t ++ " " ++ op.symbol ++ " " ++ u) =
      .ok { condition := .bare (b.withLeftmost (.binary op a b.leftmost)) } := by
  obtain ⟨clean, d, left⟩ := parse_eq_ok_iff.mp parsed
  obtain ⟨clean', e, right⟩ := parse_eq_ok_iff.mp parsed'
  exact parse_joined_of_derivation clean clean' (Expr.spells_arith op)
    (d.exists_joined_expr e left right op)

/-- Behind a text and an operator, the leftmost operand of a condition is joined to all of the text, for
each operator alike. -/
theorem Query.parse_joined {t u : String} {q : Query} {c : Condition} (parsed : parse t = .ok q)
    (parsed' : parse u = .ok { condition := c }) :
    (∀ s op w, Spelling s.toList (.ok (.connective op w)) →
      parse (t ++ " " ++ s ++ " " ++ u) =
        .ok { q with condition := c.withLeftmost (.binary op q.condition c.leftmost) }) ∧
    ∀ a b, q = { condition := .bare a } → c = .bare b → ∀ op : ArithOp,
      parse (t ++ " " ++ op.symbol ++ " " ++ u) =
        .ok { condition := .bare (b.withLeftmost (.binary op a b.leftmost)) } := by
  constructor
  · intro s op w spelling
    exact parse_connected parsed parsed' spelling
  · rintro a b rfl rfl op
    exact parse_calculated parsed parsed' op

/-- A conjunction in front of an implication, and a product behind a difference. -/
theorem Query.until_joined :
    (parse "A G x & y" = .ok ⟨.binary .conjunction (.bare (.name "x")) (.bare (.name "y")),
        some .universal, some .globally, none⟩ ∧
      parse "a => b" = .ok { condition := .binary .implication (.bare (.name "a")) (.bare (.name "b")) } ∧
      Spelling "until".toList (.ok (.connective .strongUntil "until")) ∧
      parse ("A G x & y" ++ " " ++ "until" ++ " " ++ "a => b") = .ok ⟨.binary .implication
        (.binary .strongUntil (.binary .conjunction (.bare (.name "x")) (.bare (.name "y")))
          (.bare (.name "a"))) (.bare (.name "b")), some .universal, some .globally, none⟩) ∧
    parse "x - 1" = .ok { condition := .bare (.binary .subtract (.name "x") (.int 1)) } ∧
    parse "y * 2" = .ok { condition := .bare (.binary .multiply (.name "y") (.int 2)) } ∧
    parse ("x - 1" ++ " " ++ "-" ++ " " ++ "y * 2") = .ok { condition := .bare (.binary .multiply
      (.binary .subtract (.binary .subtract (.name "x") (.int 1)) (.name "y")) (.int 2)) } := by
  have parsed : parse "A G x & y" = .ok ⟨.binary .conjunction (.bare (.name "x")) (.bare (.name "y")),
      some .universal, some .globally, none⟩ := by decide +kernel
  have parsed' : parse "a => b" =
      .ok { condition := .binary .implication (.bare (.name "a")) (.bare (.name "b")) } := by
    decide +kernel
  have made : ofWord "until".toList = .ok (.connective .strongUntil "until") := by decide +kernel
  have spelling : Spelling "until".toList (.ok (.connective .strongUntil "until")) :=
    made ▸ .word (by decide +kernel) (List.all_eq_true.mp (by decide +kernel))
  have left : parse "x - 1" = .ok { condition := .bare (.binary .subtract (.name "x") (.int 1)) } := by
    decide +kernel
  have right : parse "y * 2" = .ok { condition := .bare (.binary .multiply (.name "y") (.int 2)) } := by
    decide +kernel
  exact ⟨⟨parsed, parsed', spelling, (parse_joined parsed parsed').1 _ _ _ spelling⟩, left, right,
    (parse_joined left right).2 _ _ rfl rfl .subtract⟩

/-! ### Any number of texts -/

/-- A connective and what is written behind it. -/
structure Link where
  spelling : String
  op : Connective
  text : String
  operand : Condition

/-- The text is read as the operand, in which no connective joins anything. -/
structure Link.Reads (l : Link) : Prop where
  connective : ∃ w, Spelling l.spelling.toList (.ok (.connective l.op w))
  parsed : Query.parse l.text = .ok { condition := l.operand }
  whole : ¬ l.operand.isBinary

/-- However many operands are written one behind the other, they are joined from the left. -/
theorem Query.parse_foldl {t : String} {q : Query} (parsed : parse t = .ok q) {links : List Link}
    (reads : ∀ l ∈ links, l.Reads) :
    parse (links.foldl (fun t l => t ++ " " ++ l.spelling ++ " " ++ l.text) t) =
      .ok { q with condition := links.foldl (fun c l => .binary l.op c l.operand) q.condition } := by
  -- Each link joins all that stands in front of it, so the text read so far is what varies.
  induction links generalizing t q with
  | nil => exact parsed
  | cons l links ih =>
    rw [List.forall_mem_cons] at reads
    obtain ⟨⟨⟨w, spelling⟩, operand, whole⟩, others⟩ := reads
    have joined := parse_connected parsed operand spelling
    rw [Condition.withLeftmost_of_not_isBinary whole, Condition.leftmost_of_not_isBinary whole] at joined
    exact ih joined others

end TemporalQuery
