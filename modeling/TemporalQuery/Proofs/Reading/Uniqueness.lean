import TemporalQuery.Proofs.Reading.Completeness

/-!
# One tree at most

Reading is a function, so trees over the same tokens mean the same condition; and what a tree means
leaves nothing open but the spelling of its tokens (`ExprTree.map_unspelled`). Hence
`Derivation.subsingleton`.
-/

namespace TemporalQuery

/-! ### Tokens up to spelling -/

/-- The token without its spelling. All tokens that stand for one name become the same. -/
def Token.unspelled (t : Token) : Token :=
  match t.name?, t with
  | some x, _ => .quoted x
  | none, .constant k _ => .constant k ""
  | none, .unary op _ => .unary op ""
  | none, .connective op _ => .connective op ""
  | none, .relation op _ => .relation op ""
  | none, t => t

theorem Token.unspelled_name {t : Token} {x : String} (h : t.name? = some x) :
    t.unspelled = .quoted x := by
  unfold unspelled
  rw [h]

/-- The tokens that an expression is written with, up to spelling. -/
def Expr.symbols : Expr → List Token
  | int n => [.int n]
  | name x => [.quoted x]
  | minus e => .arith .subtract :: e.symbols
  | group e => .openParen :: (e.symbols ++ [.closeParen])
  | binary op l r => l.symbols ++ .arith op :: r.symbols

def Condition.symbols : Condition → List Token
  | constant k => [.constant k ""]
  | bare e => e.symbols
  | compare l op r => l.symbols ++ .relation op "" :: r.symbols
  | unary op c => .unary op "" :: c.symbols
  | group c => .openParen :: (c.symbols ++ [.closeParen])
  | binary op l r => l.symbols ++ .connective op "" :: r.symbols

theorem ExprTree.map_unspelled {l : Layer} (t : ExprTree l) :
    t.tokens.map Token.unspelled = t.expr.symbols := by
  induction t with
  | name t x h =>
    simp only [tokens, expr, List.map_cons, List.map_nil, Token.unspelled_name h, Expr.symbols]
  | int n => rfl
  | group e ih => simp [tokens, expr, Expr.symbols, ih, Token.unspelled, Token.name?]
  | minus e ih => simp [tokens, expr, Expr.symbols, ih, Token.unspelled, Token.name?]
  | plain e ih => exact ih
  | single a ih => exact ih
  | link e op a ihe iha =>
    simp [tokens, expr, Expr.symbols, ihe, iha, Token.unspelled, Token.name?]

theorem CondTree.map_unspelled {l : Layer} (t : CondTree l) :
    t.tokens.map Token.unspelled = t.cond.symbols := by
  induction t with
  | constant k s => rfl
  | bare e => exact e.map_unspelled
  | compare e op s e' =>
    simp [tokens, cond, Condition.symbols, ExprTree.map_unspelled, Token.unspelled, Token.name?]
  | group c ih => simp [tokens, cond, Condition.symbols, ih, Token.unspelled, Token.name?]
  | unary op s c ih => simp [tokens, cond, Condition.symbols, ih, Token.unspelled, Token.name?]
  | plain c ih => exact ih
  | single a ih => exact ih
  | link c op s a ihc iha =>
    simp [tokens, cond, Condition.symbols, ihc, iha, Token.unspelled, Token.name?]

theorem ExprTree.length_tokens {l l' : Layer} {t : ExprTree l} {t' : ExprTree l'}
    (h : t.expr = t'.expr) : t.tokens.length = t'.tokens.length := by
  have same : t.tokens.map Token.unspelled = t'.tokens.map Token.unspelled := by
    rw [t.map_unspelled, t'.map_unspelled, h]
  simpa using congrArg List.length same

theorem CondTree.length_tokens {l l' : Layer} {t : CondTree l} {t' : CondTree l'}
    (h : t.cond = t'.cond) : t.tokens.length = t'.tokens.length := by
  have same : t.tokens.map Token.unspelled = t'.tokens.map Token.unspelled := by
    rw [t.map_unspelled, t'.map_unspelled, h]
  simpa using congrArg List.length same

/-! ### Trees of one meaning -/

theorem ExprTree.isPrimary_expr (t : ExprTree .primary) : t.expr.isPrimary := by
  cases t <;> rfl

theorem ExprTree.not_isBinary_expr (t : ExprTree .atom) : ¬ t.expr.isBinary := by
  cases t with
  | minus e => exact nofun
  | plain e => cases e <;> exact nofun

theorem CondTree.isPrimary_cond (t : CondTree .primary) : t.cond.isPrimary := by
  cases t <;> rfl

theorem CondTree.not_isBinary_cond (t : CondTree .atom) : ¬ t.cond.isBinary := by
  cases t with
  | unary op s c => exact nofun
  | plain c => cases c <;> exact nofun

theorem ExprTree.eq_of_expr_eq {l : Layer} {t t' : ExprTree l} (same : t.expr = t'.expr)
    (tokens : t.tokens = t'.tokens) : t = t' := by
  induction t with
  | int n =>
    cases t' with
    | int n' => exact congrArg _ (Expr.int.inj same)
    | _ => cases same
  | name t x h =>
    cases t' with
    | name t' x' h' =>
      obtain rfl := Expr.name.inj same
      obtain rfl := (List.cons.inj tokens).1
      rfl
    | _ => cases same
  | group e ih =>
    cases t' with
    | group e' =>
      have inside : e.tokens = e'.tokens := List.append_cancel_right (List.cons.inj tokens).2
      exact congrArg _ (ih (Expr.group.inj same) inside)
    | _ => cases same
  | minus e ih =>
    cases t' with
    | minus e' => exact congrArg _ (ih (Expr.minus.inj same) (List.cons.inj tokens).2)
    | plain e' =>
      have primary := e'.isPrimary_expr
      rw [← show _ = e'.expr from same] at primary
      cases primary
  | plain e ih =>
    cases t' with
    | plain e' => exact congrArg _ (ih same tokens)
    | minus e' =>
      have primary := e.isPrimary_expr
      rw [show e.expr = _ from same] at primary
      cases primary
  | single a ih =>
    cases t' with
    | single a' => exact congrArg _ (ih same tokens)
    | link e' op' a' =>
      rw [ExprTree.expr, ExprTree.expr] at same
      exact absurd (same ▸ rfl) a.not_isBinary_expr
  | link e op a ihe iha =>
    cases t' with
    | single a' =>
      rw [ExprTree.expr, ExprTree.expr] at same
      exact absurd (same ▸ rfl) a'.not_isBinary_expr
    | link e' op' a' =>
      -- Operands that mean the same have as many tokens, so both chains split at the same place.
      obtain ⟨rfl, left, right⟩ := Expr.binary.inj same
      obtain ⟨leftTokens, rest⟩ := List.append_inj tokens (length_tokens left)
      rw [ihe left leftTokens, iha right (List.cons.inj rest).2]

theorem CondTree.eq_of_cond_eq {l : Layer} {t t' : CondTree l} (same : t.cond = t'.cond)
    (tokens : t.tokens = t'.tokens) : t = t' := by
  induction t with
  | constant k s =>
    cases t' with
    | constant k' s' =>
      obtain ⟨rfl, rfl⟩ := Token.constant.inj (List.cons.inj tokens).1
      rfl
    | _ => cases same
  | bare e =>
    cases t' with
    | bare e' => exact congrArg _ (ExprTree.eq_of_expr_eq (Condition.bare.inj same) tokens)
    | _ => cases same
  | compare e op s f =>
    cases t' with
    | compare e' op' s' f' =>
      obtain ⟨left, rfl, right⟩ := Condition.compare.inj same
      obtain ⟨leftTokens, rest⟩ := List.append_inj tokens (ExprTree.length_tokens left)
      obtain ⟨relation, rightTokens⟩ := List.cons.inj rest
      obtain ⟨_, rfl⟩ := Token.relation.inj relation
      rw [ExprTree.eq_of_expr_eq left leftTokens, ExprTree.eq_of_expr_eq right rightTokens]
    | _ => cases same
  | group c ih =>
    cases t' with
    | group c' =>
      have inside : c.tokens = c'.tokens := List.append_cancel_right (List.cons.inj tokens).2
      exact congrArg _ (ih (Condition.group.inj same) inside)
    | _ => cases same
  | unary op s c ih =>
    cases t' with
    | unary op' s' c' =>
      obtain ⟨mark, inside⟩ := List.cons.inj tokens
      obtain ⟨rfl, rfl⟩ := Token.unary.inj mark
      exact congrArg _ (ih (Condition.unary.inj same).2 inside)
    | plain c' =>
      have primary := c'.isPrimary_cond
      rw [← show _ = c'.cond from same] at primary
      cases primary
  | plain c ih =>
    cases t' with
    | plain c' => exact congrArg _ (ih same tokens)
    | unary op' s' c' =>
      have primary := c.isPrimary_cond
      rw [show c.cond = _ from same] at primary
      cases primary
  | single a ih =>
    cases t' with
    | single a' => exact congrArg _ (ih same tokens)
    | link c' op' s' a' =>
      rw [CondTree.cond, CondTree.cond] at same
      exact absurd (same ▸ rfl) a.not_isBinary_cond
  | link c op s a ihc iha =>
    cases t' with
    | single a' =>
      rw [CondTree.cond, CondTree.cond] at same
      exact absurd (same ▸ rfl) a'.not_isBinary_cond
    | link c' op' s' a' =>
      obtain ⟨rfl, left, right⟩ := Condition.binary.inj same
      obtain ⟨leftTokens, rest⟩ := List.append_inj tokens (length_tokens left)
      obtain ⟨connective, rightTokens⟩ := List.cons.inj rest
      obtain ⟨_, rfl⟩ := Token.connective.inj connective
      rw [ihc left leftTokens, iha right rightTokens]

/-! ### One reading -/

theorem CondTree.eq_of_tokens_eq {t t' : CondTree .chain} (settled : t.Settled)
    (settled' : t'.Settled) (tokens : t.tokens = t'.tokens) : t = t' := by
  have spelled := Lexeme.map_token_ofToken t.tokens
  obtain ⟨b, fed, ends⟩ := Reading.reads_cond t settled [] {} rfl _ spelled
  obtain ⟨b', fed', ends'⟩ := Reading.reads_cond t' settled' [] {} rfl _ (spelled.trans tokens)
  obtain rfl := Option.some.inj (fed.symm.trans fed')
  have same : t.cond = t'.cond := Option.some.inj (ends.finish?.symm.trans ends'.finish?)
  exact eq_of_cond_eq same tokens

theorem HeadSpan.unique {α : Type} {make : α → String → Token} {rest rest' ts ts' : List Token}
    {a a' : Option α} (injective : ∀ {a s a' s'}, make a s = make a' s' → a = a')
    (h : HeadSpan make rest ts a) (h' : HeadSpan make rest' ts' a')
    (same : ts ++ rest = ts' ++ rest') : ts = ts' ∧ a = a' ∧ rest = rest' := by
  cases h with
  | present a s =>
    cases h' with
    | present a' s' =>
      obtain ⟨token, restSame⟩ := List.cons.inj same
      exact ⟨by rw [token], congrArg some (injective token), restSame⟩
    | absent none =>
      rw [List.nil_append] at same
      exact absurd (same ▸ rfl) (none a s)
  | absent none =>
    cases h' with
    | present a' s' =>
      rw [List.nil_append] at same
      exact absurd (same ▸ rfl) (none a' s')
    | absent _ => exact ⟨rfl, rfl, same⟩

theorem BoundSpan.unique {rest rest' ts ts' : List Token} {b b' : Option Bound}
    (h : BoundSpan rest ts b) (h' : BoundSpan rest' ts' b')
    (same : ts ++ rest = ts' ++ rest') : ts = ts' ∧ b = b' ∧ rest = rest' := by
  cases h with
  | absent noBracket =>
    cases h' with
    | absent _ => exact ⟨rfl, rfl, same⟩
    | _ =>
      rw [List.nil_append] at same
      exact absurd (same ▸ rfl) noBracket
  | _ =>
    cases h' with
    | absent noBracket =>
      rw [List.nil_append] at same
      exact absurd (same ▸ rfl) noBracket
    | _ => simp_all

instance Derivation.subsingleton (ts : List Token) : Subsingleton (Derivation ts) := by
  refine ⟨fun d d' => ?_⟩
  have split := d.split.symm.trans d'.split
  obtain ⟨quantifierTokens, quantifier, split⟩ :=
    HeadSpan.unique (fun e => (Token.quantifier.inj e).1) d.quantifierSpan d'.quantifierSpan split
  obtain ⟨modalityTokens, modality, split⟩ :=
    HeadSpan.unique (fun e => (Token.modality.inj e).1) d.modalitySpan d'.modalitySpan split
  obtain ⟨boundTokens, bound, split⟩ := d.boundSpan.unique d'.boundSpan split
  have body := CondTree.eq_of_tokens_eq d.settled d'.settled split
  exact Derivation.ext quantifierTokens modalityTokens boundTokens body quantifier modality bound

end TemporalQuery
