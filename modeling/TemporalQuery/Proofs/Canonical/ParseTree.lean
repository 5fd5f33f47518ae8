import TemporalQuery.Proofs.Lexing.Detached
import TemporalQuery.Proofs.Reading.Uniqueness

/-!
# Parse trees of canonical text

`parseTree` adds parentheses where a layer does not take a node and otherwise keeps every node. The
text stays the same (`Condition.text_parseTree`) and the tree's tokens are those of the text, no word of
which touches a quote (`Condition.detached_parseTree`).
-/

namespace TemporalQuery

namespace ExprTree

def ofPrimary (p : ExprTree .primary) : (l : Layer) → ExprTree l
  | .primary => p
  | .atom => .plain p
  | .chain => .single (.plain p)

def ofAtom (a : ExprTree .atom) : (l : Layer) → ExprTree l
  | .primary => .group (.single a)
  | .atom => a
  | .chain => .single a

def ofChain (c : ExprTree .chain) : (l : Layer) → ExprTree l
  | .primary => .group c
  | .atom => .plain (.group c)
  | .chain => c

end ExprTree

namespace Expr

def parseTree : Expr → (l : Layer) → ExprTree l
  | int n => .ofPrimary (.int n)
  | name x => .ofPrimary (.name (Identifier.token x) x (Identifier.name?_token x))
  | group e => .ofPrimary (.group (e.parseTree .chain))
  | minus e => .ofAtom (.minus (e.parseTree .primary))
  | binary op l r => .ofChain (.link (l.parseTree .chain) op (r.parseTree .atom))

/-- The text of an expression where a part of the layer stands. -/
def textAt : Layer → Expr → String
  | .primary, e => if e.isPrimary then e.text else parenthesized e.text
  | .atom, e => if e.isBinary then parenthesized e.text else e.text
  | .chain, e => e.text

/-- The expression without its groups. -/
def ungrouped : Expr → Expr
  | int n => int n
  | name x => name x
  | minus e => minus e.ungrouped
  | group e => e.ungrouped
  | binary op l r => binary op l.ungrouped r.ungrouped

/-- Names are words, integers in range. -/
def Writable : Expr → Prop
  | int n => n ≤ maxInt
  | name x => Identifier.IsWord x
  | minus e => e.Writable
  | group e => e.Writable
  | binary _ l r => l.Writable ∧ r.Writable

theorem ungrouped_parseTree (e : Expr) (l : Layer) : (e.parseTree l).expr.ungrouped = e.ungrouped := by
  induction e generalizing l with
  | int n => cases l <;> rfl
  | name x => cases l <;> rfl
  | minus e ih => cases l <;> exact congrArg minus (ih .primary)
  | group e ih => cases l <;> exact ih .chain
  | binary op left right ihl ihr =>
    cases l <;> exact congrArg₂ (binary op) (ihl .chain) (ihr .atom)

theorem text_parseTree (e : Expr) (l : Layer) : (e.parseTree l).expr.text = e.textAt l := by
  induction e generalizing l with
  | int n => cases l <;> rfl
  | name x => cases l <;> rfl
  | group e ih =>
    have inner : (group (e.parseTree .chain).expr).text = (group e).text :=
      congrArg parenthesized (ih .chain)
    cases l <;> exact inner
  | minus e ih =>
    have operand : (minus (e.parseTree .primary).expr).text = (minus e).text := by
      simp only [text, (e.parseTree .primary).isPrimary_expr, if_true, ih, textAt]
    cases l with
    | primary => exact congrArg parenthesized operand
    | _ => exact operand
  | binary op left right ihl ihr =>
    have operands : (binary op (left.parseTree .chain).expr (right.parseTree .atom).expr).text =
        (binary op left right).text := by
      simp only [text, if_neg (right.parseTree .atom).not_isBinary_expr, ihl, ihr, textAt]
    cases l with
    | chain => exact operands
    | _ => exact congrArg parenthesized operands

theorem toList_text_binary (op : ArithOp) (l r : Expr) : (binary op l r).text.toList =
    (l.textAt .chain).toList ++ ' ' :: (op.symbol.toList ++ ' ' :: (r.textAt .atom).toList) := by
  simp [text, textAt]

theorem spells_arith (op : ArithOp) : Lexeme.Spells op.symbol.toList [.arith op] := by
  cases op <;> exact Lexeme.spells_symbol rfl

theorem detached_arith (op : ArithOp) : Lexeme.Detached op.symbol.toList [.arith op] :=
  .of_spells (spells_arith op) (by simp)

theorem detached_parseTree {e : Expr} (h : e.Writable) (l : Layer) :
    Lexeme.Detached (e.textAt l).toList (e.parseTree l).tokens := by
  induction e generalizing l with
  | int n =>
    have number : Lexeme.Detached (int n).text.toList [.int n] :=
      .of_spells (Lexeme.spells_number h) (by simp)
    cases l <;> exact number
  | name x =>
    have name : Lexeme.Detached (Expr.name x).text.toList [Identifier.token x] :=
      Identifier.detached_text h
    cases l <;> exact name
  | group e ih =>
    have inner := (ih h .chain).parenthesized
    cases l <;> exact inner
  | minus e ih =>
    have operand := (ih h .primary).minus
    have text : (minus e).text.toList = '-' :: (e.textAt .primary).toList := by
      simp [Expr.text, textAt]
    rw [← text] at operand
    cases l with
    | primary => exact operand.parenthesized
    | _ => exact operand
  | binary op left right ihl ihr =>
    have operands := (ihl h.1 .chain).spaced ((detached_arith op).spaced (ihr h.2 .atom))
    rw [← toList_text_binary] at operands
    cases l with
    | chain => exact operands
    | _ => exact operands.parenthesized

/-- No expression starts with a character that would go on with a symbol. -/
theorem apart_text {e : Expr} (h : e.Writable) {c : Char} (hc : Lexeme.isWordChar c = false) :
    Lexeme.Apart [c] e.text.toList := by
  induction e with
  | int n => exact Lexeme.apart_of_word hc fun d => Lexeme.isWordChar_of_mem_toString
  | name x => exact Identifier.apart_text h hc
  | group e ih =>
    rw [text, parenthesized, String.toList_append, String.toList_append]
    exact Lexeme.Apart.of_isLoose_head (d := '(') rfl
  | minus e ih =>
    rw [text, String.toList_append]
    exact Lexeme.Apart.of_isLoose_head (d := '-') rfl
  | binary op l r ihl ihr =>
    simp only [text, String.toList_append, List.append_assoc]
    exact (ihl h.1).append_right (Lexeme.Apart.of_isLoose_head (d := ' ') rfl)

theorem expr_parseTree_primary {e : Expr} (h : e.isPrimary) (l : Layer) :
    (e.parseTree l).expr = (e.parseTree .primary).expr := by
  cases e with
  | int n | name x | group e => cases l <;> rfl
  | _ => exact absurd h nofun

theorem expr_parseTree_atom {e : Expr} (h : ¬ e.isBinary) :
    (e.parseTree .chain).expr = (e.parseTree .atom).expr := by
  cases e with
  | binary op l r => exact absurd rfl h
  | _ => rfl

/-- Groups are where reading needs them. -/
def Shaped : Expr → Prop
  | int _ | name _ => True
  | minus e => e.isPrimary ∧ e.Shaped
  | group e => e.Shaped
  | binary _ l r => l.Shaped ∧ r.Shaped ∧ ¬ r.isBinary

theorem expr_parseTree_of_shaped {e : Expr} (h : e.Shaped) : (e.parseTree .chain).expr = e := by
  induction e with
  | int n | name x => rfl
  | minus e ih =>
    have operand := (expr_parseTree_primary h.1 .chain).symm.trans (ih h.2)
    exact congrArg minus operand
  | group e ih => exact congrArg group (ih h)
  | binary op l r ihl ihr =>
    have right := (expr_parseTree_atom h.2.2).symm.trans (ihr h.2.1)
    exact congrArg₂ (binary op) (ihl h.1) right

theorem leadingName?_parseTree (e : Expr) :
    (e.parseTree .chain).expr.leadingName? = e.leadingName? := by
  induction e with
  | binary op l r ihl ihr => exact ihl
  | _ => rfl

end Expr

theorem ExprTree.shaped {l : Layer} (t : ExprTree l) : t.expr.Shaped := by
  induction t with
  | int n | name t x h => trivial
  | group e ih | plain e ih | single a ih => exact ih
  | minus e ih => exact ⟨e.isPrimary_expr, ih⟩
  | link e op a ihe iha => exact ⟨ihe, iha, a.not_isBinary_expr⟩

def Condition.ungrouped : Condition → Condition
  | constant k => constant k
  | bare e => bare e.ungrouped
  | compare l op r => compare l.ungrouped op r.ungrouped
  | unary op c => unary op c.ungrouped
  | group c => c.ungrouped
  | binary op l r => binary op l.ungrouped r.ungrouped

namespace CondTree

/-- The condition between parentheses; those around a bare expression are the expression's. -/
def grouped : CondTree .chain → CondTree .primary
  | .single (.plain (.bare e)) => .bare (.single (.plain (.group e)))
  | c => .group c

def ofPrimary (p : CondTree .primary) : (l : Layer) → CondTree l
  | .primary => p
  | .atom => .plain p
  | .chain => .single (.plain p)

def ofAtom (a : CondTree .atom) : (l : Layer) → CondTree l
  | .primary => .group (.single a)
  | .atom => a
  | .chain => .single a

def ofChain (c : CondTree .chain) : (l : Layer) → CondTree l
  | .primary => .group c
  | .atom => .plain (.group c)
  | .chain => c

theorem tokens_grouped (c : CondTree .chain) :
    c.grouped.tokens = .openParen :: (c.tokens ++ [.closeParen]) := by
  unfold grouped
  split <;> rfl

theorem settled_grouped {c : CondTree .chain} (h : c.Settled) : c.grouped.Settled := by
  unfold grouped
  split
  · trivial
  · rename_i notBare
    refine ⟨?_, h⟩
    cases c with
    | link c op s a => exact nofun
    | single a =>
      cases a with
      | unary op s p => exact nofun
      | plain p =>
        cases p with
        | bare e => exact absurd rfl (notBare e)
        | _ => exact nofun

theorem text_grouped (c : CondTree .chain) : c.grouped.cond.text = parenthesized c.cond.text := by
  unfold grouped
  split <;> rfl

theorem ungrouped_grouped (c : CondTree .chain) : c.grouped.cond.ungrouped = c.cond.ungrouped := by
  unfold grouped
  split <;> rfl

theorem grouped_of_not_isBare {c : CondTree .chain} (h : ¬ c.cond.isBare) : c.grouped = .group c := by
  unfold grouped
  split
  · exact absurd rfl h
  · rfl

end CondTree

def UnaryOp.spelling : UnaryOp → String
  | negation => "!"
  | nextState => "next"

namespace Condition

def parseTree : Condition → (l : Layer) → CondTree l
  | constant k => .ofPrimary (.constant k k.symbol)
  | bare e => .ofPrimary (.bare (e.parseTree .chain))
  | compare l op r => .ofPrimary (.compare (l.parseTree .chain) op op.symbol (r.parseTree .chain))
  | group c => .ofPrimary (c.parseTree .chain).grouped
  | unary op c => .ofAtom (.unary op op.spelling (c.parseTree .primary))
  | binary op l r => .ofChain (.link (l.parseTree .chain) op op.symbol (r.parseTree .atom))

def textAt : Layer → Condition → String
  | .primary, c => if c.isPrimary then c.text else parenthesized c.text
  | .atom, c => if c.isBinary then parenthesized c.text else c.text
  | .chain, c => c.text

def Writable : Condition → Prop
  | constant _ => True
  | bare e => e.Writable
  | compare l _ r => l.Writable ∧ r.Writable
  | unary _ c => c.Writable
  | group c => c.Writable
  | binary _ l r => l.Writable ∧ r.Writable

theorem settled_parseTree (c : Condition) (l : Layer) : (c.parseTree l).Settled := by
  induction c generalizing l with
  | constant k => cases l <;> trivial
  | bare e => cases l <;> trivial
  | compare e op e' => cases l <;> trivial
  | group c ih =>
    have inner := CondTree.settled_grouped (ih .chain)
    cases l <;> exact inner
  | unary op c ih =>
    have operand := ih .primary
    cases l with
    | primary => exact ⟨nofun, operand⟩
    | _ => exact operand
  | binary op left right ihl ihr =>
    have operands := And.intro (ihl .chain) (ihr .atom)
    cases l with
    | chain => exact operands
    | _ => exact ⟨nofun, operands⟩

theorem ungrouped_parseTree (c : Condition) (l : Layer) :
    (c.parseTree l).cond.ungrouped = c.ungrouped := by
  induction c generalizing l with
  | constant k => cases l <;> rfl
  | bare e => cases l <;> exact congrArg bare (e.ungrouped_parseTree .chain)
  | compare e op e' =>
    have sides := congrArg₂ (compare · op ·) (e.ungrouped_parseTree .chain)
      (e'.ungrouped_parseTree .chain)
    cases l <;> exact sides
  | group c ih =>
    have inner := (CondTree.ungrouped_grouped (c.parseTree .chain)).trans (ih .chain)
    cases l <;> exact inner
  | unary op c ih => cases l <;> exact congrArg (unary op) (ih .primary)
  | binary op left right ihl ihr =>
    cases l <;> exact congrArg₂ (binary op) (ihl .chain) (ihr .atom)

theorem text_parseTree (c : Condition) (l : Layer) : (c.parseTree l).cond.text = c.textAt l := by
  induction c generalizing l with
  | constant k => cases l <;> rfl
  | bare e => cases l <;> exact e.text_parseTree .chain
  | compare e op e' =>
    have sides : (compare (e.parseTree .chain).expr op (e'.parseTree .chain).expr).text =
        (compare e op e').text := by
      simp only [text, Expr.text_parseTree, Expr.textAt]
    cases l <;> exact sides
  | group c ih =>
    have inner : (c.parseTree .chain).grouped.cond.text = (group c).text := by
      rw [CondTree.text_grouped, ih, textAt, text]
    cases l <;> exact inner
  | unary op c ih =>
    have operand : (unary op (c.parseTree .primary).cond).text = (unary op c).text := by
      simp only [text, (c.parseTree .primary).isPrimary_cond, if_true, ih, textAt]
    cases l with
    | primary => exact congrArg parenthesized operand
    | _ => exact operand
  | binary op left right ihl ihr =>
    have operands : (binary op (left.parseTree .chain).cond (right.parseTree .atom).cond).text =
        (binary op left right).text := by
      simp only [text, if_neg (right.parseTree .atom).not_isBinary_cond, ihl, ihr, textAt]
    cases l with
    | chain => exact operands
    | _ => exact congrArg parenthesized operands

theorem cond_parseTree_primary {c : Condition} (h : c.isPrimary) (l : Layer) :
    (c.parseTree l).cond = (c.parseTree .primary).cond := by
  cases c with
  | constant k | bare e | compare e op e' | group c => cases l <;> rfl
  | _ => exact absurd h nofun

theorem cond_parseTree_atom {c : Condition} (h : ¬ c.isBinary) :
    (c.parseTree .chain).cond = (c.parseTree .atom).cond := by
  cases c with
  | binary op l r => exact absurd rfl h
  | _ => rfl

/-- Groups are where reading needs them, and none is around an expression that stands alone. -/
def Shaped : Condition → Prop
  | constant _ => True
  | bare e => e.Shaped
  | compare l _ r => l.Shaped ∧ r.Shaped
  | unary _ c => c.isPrimary ∧ c.Shaped
  | group c => ¬ c.isBare ∧ c.Shaped
  | binary _ l r => l.Shaped ∧ r.Shaped ∧ ¬ r.isBinary

theorem cond_parseTree_of_shaped {c : Condition} (h : c.Shaped) :
    (c.parseTree .chain).cond = c := by
  induction c with
  | constant k => rfl
  | bare e => exact congrArg bare (Expr.expr_parseTree_of_shaped h)
  | compare l op r =>
    exact congrArg₂ (compare · op ·) (Expr.expr_parseTree_of_shaped h.1)
      (Expr.expr_parseTree_of_shaped h.2)
  | unary op c ih =>
    have operand := (cond_parseTree_primary h.1 .chain).symm.trans (ih h.2)
    exact congrArg (unary op) operand
  | group c ih =>
    have same := ih h.2
    have notBare : ¬ (c.parseTree .chain).cond.isBare := by
      rw [same]
      exact h.1
    show (c.parseTree .chain).grouped.cond = _
    rw [CondTree.grouped_of_not_isBare notBare]
    exact congrArg group same
  | binary op l r ihl ihr =>
    have right := (cond_parseTree_atom h.2.2).symm.trans (ihr h.2.1)
    exact congrArg₂ (binary op) (ihl h.1) right

theorem leadingName?_parseTree (c : Condition) :
    (c.parseTree .chain).cond.leadingName? = c.leadingName? := by
  induction c with
  | constant k => rfl
  | bare e => exact e.leadingName?_parseTree
  | compare e op e' => exact e.leadingName?_parseTree
  | group c ih =>
    show (c.parseTree .chain).grouped.cond.leadingName? = none
    unfold CondTree.grouped
    split <;> rfl
  | unary op c ih => rfl
  | binary op l r ihl ihr => exact ihl

/-! ### Its tokens are those of the text -/

theorem toList_text_compare (e : Expr) (op : RelOp) (e' : Expr) : (compare e op e').text.toList =
    (e.textAt .chain).toList ++ ' ' :: (op.symbol.toList ++ ' ' :: (e'.textAt .chain).toList) := by
  simp [text, Expr.textAt]

theorem toList_text_binary (op : Connective) (l r : Condition) : (binary op l r).text.toList =
    (l.textAt .chain).toList ++ ' ' :: (op.symbol.toList ++ ' ' :: (r.textAt .atom).toList) := by
  simp [text, textAt]

theorem spells_constant (k : Constant) : Lexeme.Spells k.symbol.toList [.constant k k.symbol] := by
  cases k <;> exact Lexeme.spells_literal rfl rfl

theorem spells_relation (op : RelOp) : Lexeme.Spells op.symbol.toList [.relation op op.symbol] := by
  cases op <;> exact Lexeme.spells_symbol rfl

theorem spells_connective (op : Connective) :
    Lexeme.Spells op.symbol.toList [.connective op op.symbol] := by
  cases op with
  | strongUntil => exact Lexeme.spells_literal rfl rfl
  | _ => exact Lexeme.spells_symbol rfl

theorem apart_textAt_primary {c : Condition} (h : c.Writable) :
    Lexeme.Apart ['!'] (c.textAt .primary).toList := by
  have grouping : ∀ s, Lexeme.Apart ['!'] (parenthesized s).toList := by
    intro s
    rw [parenthesized, String.toList_append, String.toList_append]
    exact Lexeme.Apart.of_isLoose_head (d := '(') rfl
  cases c with
  | constant k => cases k <;> exact Lexeme.Apart.of_ends rfl rfl rfl
  | bare e => exact Expr.apart_text h rfl
  | compare e op e' =>
    simp only [textAt, isPrimary, if_true, text, String.toList_append, List.append_assoc]
    exact (Expr.apart_text h.1 rfl).append_right (Lexeme.Apart.of_isLoose_head (d := ' ') rfl)
  | group c => exact grouping c.text
  | unary op c => exact grouping (unary op c).text
  | binary op left right => exact grouping (binary op left right).text

theorem detached_unary (op : UnaryOp) {c : Condition} {ts : List Token} (h : c.Writable)
    (operand : Lexeme.Detached (c.textAt .primary).toList ts) :
    Lexeme.Detached (unary op c).text.toList (.unary op op.spelling :: ts) := by
  have text : (unary op c).text.toList = op.symbol.toList ++ (c.textAt .primary).toList := by
    simp [Condition.text, textAt]
  rw [text]
  cases op with
  | negation => exact operand.negation (apart_textAt_primary h)
  | nextState =>
    have word : Lexeme.Detached "next".toList [.unary .nextState "next"] :=
      .of_spells (Lexeme.spells_literal rfl rfl) (by simp)
    exact word.spaced operand

theorem detached_relation (op : RelOp) :
    Lexeme.Detached op.symbol.toList [.relation op op.symbol] :=
  .of_spells (spells_relation op) (by simp)

theorem detached_connective (op : Connective) :
    Lexeme.Detached op.symbol.toList [.connective op op.symbol] :=
  .of_spells (spells_connective op) (by simp)

theorem detached_parseTree {c : Condition} (h : c.Writable) (l : Layer) :
    Lexeme.Detached (c.textAt l).toList (c.parseTree l).tokens := by
  induction c generalizing l with
  | constant k =>
    have word : Lexeme.Detached (constant k).text.toList [.constant k k.symbol] :=
      .of_spells (spells_constant k) (by simp)
    cases l <;> exact word
  | bare e => cases l <;> exact Expr.detached_parseTree h .chain
  | compare e op e' =>
    have sides := (Expr.detached_parseTree h.1 .chain).spaced
      ((detached_relation op).spaced (Expr.detached_parseTree h.2 .chain))
    rw [← toList_text_compare] at sides
    cases l <;> exact sides
  | group c ih =>
    have inner := (ih h .chain).parenthesized
    rw [← CondTree.tokens_grouped] at inner
    cases l <;> exact inner
  | unary op c ih =>
    have writable : c.Writable := h
    have operand := detached_unary op writable (ih writable .primary)
    cases l with
    | primary => exact operand.parenthesized
    | _ => exact operand
  | binary op left right ihl ihr =>
    have operands := (ihl h.1 .chain).spaced ((detached_connective op).spaced (ihr h.2 .atom))
    rw [← toList_text_binary] at operands
    cases l with
    | chain => exact operands
    | _ => exact operands.parenthesized

end Condition

theorem CondTree.shaped {l : Layer} (t : CondTree l) (h : t.Settled) : t.cond.Shaped := by
  induction t with
  | constant k s => trivial
  | bare e => exact e.shaped
  | compare e op s e' => exact ⟨e.shaped, e'.shaped⟩
  | group c ih => exact ⟨h.1, ih h.2⟩
  | unary op s c ih => exact ⟨c.isPrimary_cond, ih h⟩
  | plain c ih | single a ih => exact ih h
  | link c op s a ihc iha => exact ⟨ihc h.1, iha h.2, a.not_isBinary_cond⟩

end TemporalQuery
