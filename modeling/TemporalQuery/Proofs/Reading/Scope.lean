import TemporalQuery.Proofs.Reading.Chaining
import TemporalQuery.Proofs.Reading.Viability

/-!
# The scope of parentheses and operators

Parentheses around a text hold all of its condition, however its operands are joined. An operator in front
of a text takes the leftmost operand alone, and takes it whole; it cannot take one that has an operator in
front of it already (`Query.parse_scoped`).
-/

namespace TemporalQuery

open Lexeme Reading

/-- The condition between parentheses; those around a bare expression are the expression's. -/
def Condition.grouped : Condition → Condition
  | bare e => bare (.group e)
  | c => group c

namespace CondTree

theorem cond_grouped (t : CondTree .chain) : t.grouped.cond = t.cond.grouped := by
  cases same : t.cond with
  | bare e =>
    obtain ⟨t', rfl, rfl⟩ := exists_of_cond_eq_bare same
    rfl
  | _ =>
    have notBare : ¬ t.cond.isBare := by simp [same, Condition.isBare]
    rw [grouped_of_not_isBare notBare, cond, same]
    rfl

/-- The leftmost operand is what the tokens start with. -/
theorem exists_tokens_eq (t : CondTree .chain) : ∃ rest, t.tokens = t.leftmost.tokens ++ rest := by
  fun_induction leftmost t with
  | case1 a => exact ⟨[], (List.append_nil _).symm⟩
  | case2 c op s a ih =>
    obtain ⟨rest, front⟩ := ih
    exact ⟨rest ++ .connective op s :: a.tokens, by rw [tokens, front, List.append_assoc]⟩

end CondTree

/-! ### What stands in front of a condition -/

/-- The body alone, with nothing in front of it that is read as a heading. -/
def Derivation.ofBody (t : CondTree .chain) (settled : t.Settled)
    (plain : ∀ u ∈ t.tokens.head?, ¬ u.isOpening) : Derivation t.tokens where
  quantifierTokens := []
  modalityTokens := []
  boundTokens := []
  body := t
  quantifier := none
  modality := none
  bound := none
  split := rfl
  quantifierSpan := .absent fun _ _ first => plain _ first rfl
  modalitySpan := .absent fun _ _ first => plain _ first rfl
  boundSpan := .absent fun first => t.openBracket_notMem (List.mem_of_mem_head? first)
  settled := settled

namespace Lexeme

theorem eq_of_joins_negation {c : Char} (h : joins '!' c) : c = '=' := by
  simpa [joins, pairs, show isWordChar '!' = false by decide] using h

theorem exists_longest_equality (cs : List Char) :
    ∃ t n, longest '=' cs = .ok (t, n) ∧ t.startsCondition = false := by
  obtain ⟨⟨t, n⟩, found⟩ := Option.isSome_iff_exists.mp (symbol?_isSome (c := '=') rfl cs)
  have known : Token.symbols.all (fun r => r.1.head? ≠ some '=' || !r.2.startsCondition) = true := by
    decide
  have other := List.all_eq_true.mp known _ (mem_symbols_of_symbol? found)
  exact ⟨t, n, longest_eq_ok_iff.mpr (.symbol found), by simpa using other⟩

/-- No condition starts with an equality sign, and with no other symbol that starts with one. -/
theorem apart_negation {cs : List Char} {line : Int} {start : Nat} {l : Lexeme} {ls : List Lexeme}
    (lexed : (lexFrom line start cs).lexemes = l :: ls) (starts : l.token.startsCondition) :
    Apart ['!'] cs := by
  intro sign same first found
  obtain rfl := Option.some.inj same
  rw [← Bool.not_eq_true]
  intro joined
  obtain rfl := eq_of_joins_negation joined
  obtain ⟨rest, rfl⟩ := List.head?_eq_some_iff.mp found
  obtain ⟨t, n, longer, other⟩ := exists_longest_equality rest
  rw [lexFrom_of_longest (by decide) (by decide) longer] at lexed
  obtain rfl := (List.cons.inj lexed).1
  simp [other] at starts

/-- The operator and the condition share no token, not even `!=`. -/
theorem apart_symbol {u : String} {t : CondTree .chain} (settled : t.Settled)
    (tokens : t.tokens = (lex u).tokens) (op : UnaryOp) : Apart op.symbol.toList u.toList := by
  cases op with
  | nextState => exact .of_getLast? rfl (Apart.of_isLoose_last (u := []) rfl)
  | negation =>
    cases lexemes : (lex u).lexemes with
    | nil =>
      rw [Lexed.tokens, lexemes] at tokens
      exact absurd tokens t.tokens_ne_nil
    | cons l ls =>
      rw [Lexed.tokens, lexemes] at tokens
      exact apart_negation lexemes (CondTree.startsCondition settled tokens.symm)

/-- The operator is a lexeme of its own, and those of the text stand behind it. -/
theorem lex_symbol_append {u : String} {op : UnaryOp} (apart : Apart op.symbol.toList u.toList) :
    lex (op.symbol ++ u) =
      let rest := (lex u).moved 0 op.symbol.length
      ⟨⟨.unary op op.spelling, 1, 0, op.spelling.length⟩ :: rest.lexemes, rest.fault⟩ := by
  have sign : lexFrom 1 0 op.symbol.toList =
      ⟨[⟨.unary op op.spelling, 1, 0, op.spelling.length⟩], none⟩ := by
    cases op <;> decide +kernel
  have oneLine : op.symbol.toList.count '\n' = 0 := by cases op <;> decide
  have moved := lexFrom_moved 1 0 u.toList 0 op.symbol.length
  rw [lex_eq_lexFrom, lex_eq_lexFrom, String.toList_append, lexFrom_append (by rw [sign]) apart, sign,
    oneLine, String.length_toList]
  exact congrArg (fun rest : Lexed => (⟨_ :: rest.lexemes, rest.fault⟩ : Lexed)) moved

end Lexeme

namespace Derivation

variable {ts : List Token} {c : Condition}

/-- Tokens without a heading are those of one tree. -/
theorem exists_tree (d : Derivation ts) (plain : d.query = { condition := c }) :
    ∃ t : CondTree .chain, t.Settled ∧ t.tokens = ts ∧ t.cond = c :=
  ⟨d.body, d.settled, d.tokens_body plain⟩

theorem exists_grouped (d : Derivation ts) (plain : d.query = { condition := c }) :
    ∃ e : Derivation (.openParen :: (ts ++ [.closeParen])), e.query = { condition := c.grouped } := by
  obtain ⟨t, settled, rfl, rfl⟩ := d.exists_tree plain
  let body : CondTree .chain := .single (.plain t.grouped)
  have tokens : body.tokens = .openParen :: (t.tokens ++ [.closeParen]) := t.tokens_grouped
  have settledBody : body.Settled := CondTree.settled_grouped settled
  have cond : body.cond = t.cond.grouped := t.cond_grouped
  rw [← tokens, ← cond]
  exact ⟨.ofBody body settledBody (by rw [tokens]; simp [Token.isOpening]), rfl⟩

theorem exists_operated (d : Derivation ts) (plain : d.query = { condition := c })
    (free : ∀ op c', c.leftmost ≠ .unary op c') (op : UnaryOp) (s : String) :
    ∃ e : Derivation (.unary op s :: ts),
      e.query = { condition := c.withLeftmost (.unary op c.leftmost) } := by
  obtain ⟨t, settled, rfl, rfl⟩ := d.exists_tree plain
  have first := t.cond_leftmost
  cases leftmost : t.leftmost with
  | unary op' s' p =>
    rw [leftmost] at first
    exact absurd first.symm (free op' p.cond)
  | plain p =>
    let operated : CondTree .chain := .single (.unary op s p)
    have front : operated.tokens = [.unary op s] ++ t.leftmost.tokens := by
      rw [leftmost]
      rfl
    have tokens := CondTree.tokens_withLeftmost t front
    have settledFirst := CondTree.settled_leftmost settled
    rw [leftmost] at first settledFirst
    have settledBody : (t.withLeftmost operated).Settled :=
      CondTree.settled_withLeftmost settled settledFirst
    have cond : (t.withLeftmost operated).cond =
        t.cond.withLeftmost (.unary op t.cond.leftmost) := by
      rw [CondTree.cond_withLeftmost, ← first]
      rfl
    rw [List.singleton_append] at tokens
    rw [← tokens, ← cond]
    exact ⟨.ofBody _ settledBody (by rw [tokens]; simp [Token.isOpening]), rfl⟩

/-- A condition whose leftmost operand has an operator starts with that operator. -/
theorem exists_of_leftmost_eq_unary (d : Derivation ts) (plain : d.query = { condition := c })
    {op : UnaryOp} {c' : Condition} (leftmost : c.leftmost = .unary op c') :
    ∃ s us, ts = .unary op s :: us := by
  obtain ⟨t, settled, rfl, rfl⟩ := d.exists_tree plain
  obtain ⟨rest, front⟩ := t.exists_tokens_eq
  rw [← CondTree.cond_leftmost] at leftmost
  cases first : t.leftmost with
  | unary op' s p =>
    rw [first] at leftmost front
    obtain ⟨rfl, _⟩ := Condition.unary.inj leftmost
    exact ⟨s, p.tokens ++ rest, front⟩
  | plain p =>
    rw [first] at leftmost
    have primary := p.isPrimary_cond
    rw [show p.cond = _ from leftmost] at primary
    cases primary

end Derivation

/-! ### Texts -/

/-- No operator stands in front of another one. -/
theorem Query.parse_operators {u : String} {op op' : UnaryOp} {s : String} {us : List Token}
    (apart : Apart op.symbol.toList u.toList) (tokens : (lex u).tokens = .unary op' s :: us) :
    ∃ l ∈ (lex u).lexemes.head?,
      parse (op.symbol ++ u) = .error ⟨.unexpected l.token, l.start + op.symbol.length⟩ := by
  obtain ⟨l, ls, lexemes, first, _⟩ := List.map_eq_cons_iff.mp tokens
  refine ⟨l, by rw [lexemes]; rfl, parse_of_run_error ?_⟩
  rw [lex_symbol_append apart]
  simp only [Lexed.moved, lexemes, List.map_cons]
  let place : ExprPlace := { cond := { hole := { unary := some op } } }
  have taken : State.start.advance (.unary op op.spelling) 0 =
      some (.body none none none (.operand place {})) := rfl
  have refused : (State.body none none none (.operand place {})).advance
      l.token (l.start + op.symbol.length) = none := by
    rw [first]
    rfl
  rw [State.run_cons taken, State.run_cons_refused refused]
  rfl

theorem Query.parse_parenthesized {u : String} {c : Condition}
    (parsed : parse u = .ok { condition := c }) :
    parse (parenthesized u) = .ok { condition := c.grouped } := by
  obtain ⟨clean, d, plain⟩ := parse_eq_ok_iff.mp parsed
  obtain ⟨tokens, clean'⟩ := (spells_lex clean).parenthesized 1 0
  refine parse_eq_ok_iff.mpr ⟨clean', ?_⟩
  rw [lex_eq_lexFrom, tokens]
  exact d.exists_grouped plain

theorem Query.parse_operated {u : String} {c : Condition} (parsed : parse u = .ok { condition := c })
    (free : ∀ op c', c.leftmost ≠ .unary op c') (op : UnaryOp) :
    parse (op.symbol ++ u) = .ok { condition := c.withLeftmost (.unary op c.leftmost) } := by
  obtain ⟨clean, d, plain⟩ := parse_eq_ok_iff.mp parsed
  have lexed := lex_symbol_append (apart_symbol d.settled (d.tokens_body plain).1 op)
  refine parse_eq_ok_iff.mpr ⟨by rw [lexed]; simp [Lexed.moved, clean], ?_⟩
  have tokens : (lex (op.symbol ++ u)).tokens = .unary op op.spelling :: (lex u).tokens := by
    rw [lexed]
    simp [Lexed.tokens, Lexed.moved, Lexeme.moved, Function.comp_def]
  rw [tokens]
  exact d.exists_operated plain free op op.spelling

/-- Parentheses hold the whole condition that they are put around. An operator takes the leftmost operand
and nothing else, with the relation that may follow a parenthesis; it is refused in front of another. -/
theorem Query.parse_scoped {u : String} {c : Condition} (parsed : parse u = .ok { condition := c }) :
    parse (parenthesized u) = .ok { condition := c.grouped } ∧
    ∀ op : UnaryOp,
      ((∀ op' c', c.leftmost ≠ .unary op' c') →
        parse (op.symbol ++ u) = .ok { condition := c.withLeftmost (.unary op c.leftmost) }) ∧
      ∀ op' c', c.leftmost = .unary op' c' → ∃ l ∈ (lex u).lexemes.head?,
        parse (op.symbol ++ u) = .error ⟨.unexpected l.token, l.start + op.symbol.length⟩ := by
  refine ⟨parse_parenthesized parsed, fun op => ⟨fun free => parse_operated parsed free op, ?_⟩⟩
  intro op' c' leftmost
  obtain ⟨_, d, plain⟩ := parse_eq_ok_iff.mp parsed
  obtain ⟨s, us, tokens⟩ := d.exists_of_leftmost_eq_unary plain leftmost
  exact parse_operators (apart_symbol d.settled (d.tokens_body plain).1 op) tokens

def Condition.guardedNext : Condition :=
  .binary .implication (.compare (.group (.binary .subtract (.name "a") (.int 1))) .ge (.name "b"))
    (.unary .nextState (.bare (.name "x")))

/-- The operator takes the comparison that starts with a parenthesis, and no `not` behind it. -/
theorem Query.guardedNext_scoped :
    (parse "(a - 1) >= b => next x" = .ok { condition := .guardedNext } ∧
      parse (parenthesized "(a - 1) >= b => next x") = .ok { condition := .group .guardedNext } ∧
      ∀ op : UnaryOp, parse (op.symbol ++ "(a - 1) >= b => next x") =
        .ok { condition := Condition.guardedNext.withLeftmost (.unary op
          (.compare (.group (.binary .subtract (.name "a") (.int 1))) .ge (.name "b"))) }) ∧
    (parse "(a)" = .ok { condition := .bare (.group (.name "a")) } ∧
      parse (parenthesized "(a)") = .ok { condition := .bare (.group (.group (.name "a"))) }) ∧
    parse " not x" = .ok { condition := .unary .negation (.bare (.name "x")) } ∧
    ∀ op : UnaryOp, ∃ l ∈ (lex " not x").lexemes.head?,
      parse (op.symbol ++ " not x") = .error ⟨.unexpected l.token, l.start + op.symbol.length⟩ := by
  have guarded : parse "(a - 1) >= b => next x" = .ok { condition := .guardedNext } := by
    decide +kernel
  have bare : parse "(a)" = .ok { condition := .bare (.group (.name "a")) } := by decide +kernel
  have negated : parse " not x" = .ok { condition := .unary .negation (.bare (.name "x")) } := by
    decide +kernel
  obtain ⟨grouped, operated⟩ := parse_scoped guarded
  refine ⟨⟨guarded, grouped, fun op => (operated op).1 ?_⟩, ⟨bare, (parse_scoped bare).1⟩, negated,
    fun op => ((parse_scoped negated).2 op).2 _ _ rfl⟩
  intro op' c' same
  cases same

end TemporalQuery
