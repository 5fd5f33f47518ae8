import TemporalQuery.Proofs.Canonical.Respelling
import TemporalQuery.Proofs.Occurrence

/-!
# The names of a query

A query has just the names that are written behind its heading, in the order they are written in
(`Query.names_written`).
-/

namespace TemporalQuery

/-- Whether the token is a name in a condition: it is spelled as one, or opens a query where it can. -/
def Token.isName : Token → Bool
  | ident _ | quoted _ => true
  | t => t.isOpening

/-- The names among the tokens of a condition. -/
def writtenNames (ts : List Token) : List String := (ts.filter (·.isName)).map (·.text)

theorem Token.isName_of_name? {t : Token} {x : String} (h : t.name? = some x) :
    t.isName ∧ t.text = x := by
  cases t with
  | ident y | quoted y | quantifier k y => exact ⟨rfl, Option.some.inj h⟩
  | modality m y =>
    simp only [name?] at h
    split at h
    · exact ⟨rfl, Option.some.inj h⟩
    · cases h
  | _ => cases h

theorem writtenNames_append (ts us : List Token) :
    writtenNames (ts ++ us) = writtenNames ts ++ writtenNames us := by
  simp only [writtenNames, List.filter_append, List.map_append]

theorem writtenNames_cons (t : Token) (ts : List Token) (other : t.isName = false) :
    writtenNames (t :: ts) = writtenNames ts := by
  simp only [writtenNames, List.filter_cons, other, Bool.false_eq_true, if_false]

theorem writtenNames_of_name? {t : Token} {x : String} (h : t.name? = some x) :
    writtenNames [t] = [x] := by
  obtain ⟨isName, text⟩ := Token.isName_of_name? h
  rw [writtenNames, List.filter_cons_of_pos isName, List.filter_nil, List.map_singleton, text]

theorem ExprTree.names_expr {l : Layer} (t : ExprTree l) : t.expr.names = writtenNames t.tokens := by
  induction t with
  | int n => rfl
  | name t x h => exact (writtenNames_of_name? h).symm
  | group e ih =>
    rw [tokens, writtenNames_cons .openParen _ rfl, writtenNames_append, ← ih]
    exact (List.append_nil _).symm
  | minus e ih =>
    rw [tokens, writtenNames_cons (.arith .subtract) _ rfl]
    exact ih
  | plain e ih | single a ih => exact ih
  | link e op a ihe iha =>
    rw [tokens, writtenNames_append, writtenNames_cons (.arith op) _ rfl, ← ihe, ← iha]
    rfl

theorem CondTree.names_cond {l : Layer} (t : CondTree l) : t.cond.names = writtenNames t.tokens := by
  induction t with
  | constant k s => rfl
  | bare e => exact e.names_expr
  | compare e op s e' =>
    rw [tokens, writtenNames_append, writtenNames_cons (.relation op s) _ rfl, ← e.names_expr,
      ← e'.names_expr]
    rfl
  | group c ih =>
    rw [tokens, writtenNames_cons .openParen _ rfl, writtenNames_append, ← ih]
    exact (List.append_nil _).symm
  | unary op s c ih =>
    rw [tokens, writtenNames_cons (.unary op s) _ rfl]
    exact ih
  | plain c ih | single a ih => exact ih
  | link c op s a ihc iha =>
    rw [tokens, writtenNames_append, writtenNames_cons (.connective op s) _ rfl, ← ihc, ← iha]
    rfl

theorem Derivation.drop_heading {ts : List Token} (d : Derivation ts) :
    ts.drop d.heading.length = d.body.tokens := by
  calc ts.drop d.heading.length
    _ = (d.heading ++ d.body.tokens).drop d.heading.length := by rw [← d.eq_heading_append]
    _ = d.body.tokens := List.drop_left

theorem Derivation.names_query {ts : List Token} (d : Derivation ts) :
    d.query.names = writtenNames (ts.drop d.heading.length) := by
  rw [d.drop_heading]
  exact d.body.names_cond

/-- The names of a query that is read are those written behind its heading, and those found on the sides
of the comparisons that occur in it. -/
theorem Query.names_written {text : String} {q : Query} (h : parse text = .ok q) :
    (lex text).fault = none ∧ ∃ d : Derivation (lex text).tokens, d.query = q ∧
      q.names = writtenNames ((lex text).tokens.drop d.heading.length) ∧
      ∀ x, x ∈ q.names ↔
        ∃ c ∈ q.condition.subformulas, ∃ e ∈ c.sides, Expr.name x ∈ e.subexpressions := by
  obtain ⟨clean, d, rfl⟩ := parse_eq_ok_iff.mp h
  exact ⟨clean, d, rfl, d.names_query, fun _ => Condition.mem_names_iff⟩

def Query.nested : Query where
  condition := .binary .conjunction (.compare (.name "x.1") .eq (.name "A"))
    (.unary .negation (.group (.compare (.name "true") .gt (.minus (.group (.name "P"))))))
  quantifier := some .existential
  modality := some .eventually
  bound := some (.time 5)

/-- `E`, `F` and `t` stand in the heading; `A` and `P` in the condition. -/
theorem Query.nested_written :
    parse "E F [t<=5] x.1 = A & !('true' > -(P))" = .ok nested ∧
      nested.names = ["x.1", "A", "true", "P"] ∧
      ((lex "E F [t<=5] x.1 = A & !('true' > -(P))").fault = none ∧
        ∃ d : Derivation (lex "E F [t<=5] x.1 = A & !('true' > -(P))").tokens, d.query = nested ∧
          nested.names = writtenNames
            ((lex "E F [t<=5] x.1 = A & !('true' > -(P))").tokens.drop d.heading.length) ∧
          ∀ x, x ∈ nested.names ↔
            ∃ c ∈ nested.condition.subformulas, ∃ e ∈ c.sides, Expr.name x ∈ e.subexpressions) :=
  have read : parse "E F [t<=5] x.1 = A & !('true' > -(P))" = .ok nested := by decide +kernel
  ⟨read, rfl, names_written read⟩

end TemporalQuery
