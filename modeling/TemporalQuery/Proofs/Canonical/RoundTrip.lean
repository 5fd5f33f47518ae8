import TemporalQuery.Proofs.Canonical.Heading
import TemporalQuery.Proofs.Lexing.Output
import TemporalQuery.Proofs.Reading.Acceptance
import Mathlib.Data.List.Forall2

/-!
# Reading canonical text

Canonical text is read back, whatever query it is of, and no part of it regroups
(`Query.parse_text_regroups_nothing`). A query that was read is read back as itself
(`Query.parse_text_of_parse`).
-/

namespace TemporalQuery

open Lexeme Reading

/-! ### Headings -/

theorem spells_quantifier (k : Quantifier) : Spells k.symbol.toList [.quantifier k k.symbol] := by
  cases k <;> exact spells_literal rfl rfl

theorem spells_modality (m : Modality) : Spells m.symbol.toList [.modality m m.symbol] := by
  cases m <;> exact spells_literal rfl rfl

namespace Bound

def max : Bound → Nat
  | time n | steps n => n

def tokens : Bound → List Token
  | time n => [.openBracket, .ident "t", .relation .le "<=", .int n, .closeBracket]
  | steps n => [.openBracket, .hash, .relation .le "<=", .int n, .closeBracket]

theorem spells_max {n : Nat} (small : n ≤ maxInt) :
    Spells (['<', '='] ++ ((toString n).toList ++ [']']))
      [.relation .le "<=", .int n, .closeBracket] := by
  have relation : Spells ['<', '='] [.relation .le "<="] := spells_symbol rfl
  have bracket : Spells [']'] [.closeBracket] := spells_symbol rfl
  have closed := (spells_number small).append bracket
    (.of_word (fun _ => isWordChar_of_mem_toString) (by decide))
  have digits : Apart ['='] (toString n).toList :=
    apart_of_word (by decide) fun _ => isWordChar_of_mem_toString
  exact relation.append closed (.of_getLast? rfl (digits.append_right (.of_ends rfl rfl rfl)))

theorem spells_text {b : Bound} (small : b.max ≤ maxInt) : Spells b.text.toList b.tokens := by
  have opening : Spells ['['] [.openBracket] := spells_symbol rfl
  cases b with
  | time n =>
    have letter : Spells ['t'] [.ident "t"] := spells_literal rfl rfl
    have limited := letter.append (spells_max small) (.of_ends rfl rfl rfl)
    have text : (time n).text.toList =
        ['['] ++ (['t'] ++ (['<', '='] ++ ((toString n).toList ++ [']']))) := by
      simp [Bound.text]
    rw [text]
    exact opening.append limited (.of_ends rfl rfl rfl)
  | steps n =>
    have letter : Spells ['#'] [.hash] := spells_symbol rfl
    have limited := letter.append (spells_max small) (.of_ends rfl rfl rfl)
    have text : (steps n).text.toList =
        ['['] ++ (['#'] ++ (['<', '='] ++ ((toString n).toList ++ [']']))) := by
      simp [Bound.text]
    rw [text]
    exact opening.append limited (.of_ends rfl rfl rfl)

end Bound

/-- What an optional part of a heading is written as. -/
def SpellsPart : Option String → List Token → Prop
  | some s, ts => Detached s.toList ts
  | none, ts => ts = []

theorem detached_parts {parts : List (Option String)} {tss : List (List Token)} {s : String}
    {ts : List Token} (spelled : List.Forall₂ SpellsPart parts tss) (last : Detached s.toList ts) :
    Detached (" ".intercalate (parts.filterMap id ++ [s])).toList (tss.flatten ++ ts) := by
  induction spelled with
  | nil => simpa using last
  | @cons part us parts tss first rest ih =>
    cases part with
    | none =>
      obtain rfl : us = [] := first
      exact ih
    | some p =>
      have nonempty : parts.filterMap id ++ [s] ≠ [] := by simp
      have spaced := first.spaced ih
      show Detached (" ".intercalate (p :: (parts.filterMap id ++ [s]))).toList _
      rw [String.intercalate_cons_of_ne_nil nonempty, String.toList_append, String.toList_append,
        List.append_assoc, List.flatten_cons, List.append_assoc]
      exact spaced

theorem HeadSpan.ofOption {α : Type} {make : α → String → Token} {rest : List Token}
    (symbol : α → String) (o : Option α)
    (h : o = none → ∀ a s, rest.head? ≠ some (make a s)) :
    HeadSpan make rest (o.elim [] fun a => [make a (symbol a)]) o := by
  cases o with
  | none => exact .absent (h rfl)
  | some a => exact .present a (symbol a)

namespace Query

/-- Names are words, integers in range. -/
structure Writable (q : Query) : Prop where
  condition : q.condition.Writable
  bound : ∀ b ∈ q.bound, b.max ≤ maxInt

def quantifierTokens (q : Query) : List Token := q.quantifier.elim [] fun k => [.quantifier k k.symbol]

def modalityTokens (q : Query) : List Token := q.modality.elim [] fun m => [.modality m m.symbol]

def boundTokens (q : Query) : List Token := q.bound.elim [] Bound.tokens

theorem detached_text {q : Query} (h : q.Writable) {ts : List Token}
    (spelled : Detached q.conditionText.toList ts) :
    Detached q.text.toList (q.quantifierTokens ++ (q.modalityTokens ++ (q.boundTokens ++ ts))) := by
  have quantifier : SpellsPart (q.quantifier.map (·.symbol)) q.quantifierTokens := by
    unfold quantifierTokens
    cases q.quantifier with
    | none => rfl
    | some k => exact .of_spells (spells_quantifier k) (by simp)
  have modality : SpellsPart (q.modality.map (·.symbol)) q.modalityTokens := by
    unfold modalityTokens
    cases q.modality with
    | none => rfl
    | some m => exact .of_spells (spells_modality m) (by simp)
  have bound : SpellsPart (q.bound.map (·.text)) q.boundTokens := by
    unfold boundTokens
    cases found : q.bound with
    | none => rfl
    | some b => exact .of_spells (b.spells_text (h.bound b found)) (by cases b <;> simp [Bound.tokens])
  have whole := detached_parts (.cons quantifier (.cons modality (.cons bound .nil))) spelled
  simpa [Query.text] using whole

theorem Resumes.boundSpan {q : Query} {ts : List Token} (h : q.Resumes ts) :
    BoundSpan ts q.boundTokens q.bound := by
  unfold boundTokens
  cases q.bound with
  | none => exact .absent h.noBracket
  | some b => cases b <;> constructor

theorem Resumes.modalitySpan {q : Query} {ts : List Token} (h : q.Resumes ts) :
    ModalitySpan (q.boundTokens ++ ts) q.modalityTokens q.modality := by
  refine .ofOption _ _ fun none => ?_
  unfold boundTokens
  cases unbounded : q.bound with
  | none => exact h.noModality none unbounded
  | some b => cases b <;> exact nofun

theorem Resumes.quantifierSpan {q : Query} {ts : List Token} (h : q.Resumes ts) :
    QuantifierSpan (q.modalityTokens ++ (q.boundTokens ++ ts)) q.quantifierTokens q.quantifier := by
  refine .ofOption _ _ fun none => ?_
  unfold modalityTokens boundTokens
  cases noModality : q.modality with
  | some m => exact nofun
  | none =>
    cases unbounded : q.bound with
    | none => exact h.noQuantifier none noModality unbounded
    | some b => cases b <;> exact nofun

/-! ### Texts -/

theorem parse_of_reads {text : String} {ts : List Token} {q : Query}
    (spelled : Spells text.toList ts) (nonempty : ts ≠ [])
    (reads : State.start.Reads ts (·.finish? = some q)) : parse text = .ok q := by
  obtain ⟨tokens, clean⟩ := spelled 1 0
  have some : (lex text).tokens ≠ [] := by
    rw [← tokens] at nonempty
    exact nonempty
  obtain ⟨s, ran, finished⟩ := reads (lex text).lexemes tokens
  have clean : (lex text).fault = none := clean
  rw [parse_of_tokens some]
  simp only [Lexed.parse, ran, clean, State.finish, finished]

/-- The query as its canonical text is read. -/
def reread (q : Query) : Query := { q with condition := (q.condition.parseTree .chain).cond }

theorem parse_text {q : Query} (h : q.Writable) : parse q.text = .ok q.reread := by
  obtain ⟨ts, resumes⟩ := exists_resumes h.condition
  have spelled := (detached_text h resumes.spelled).spells
  have reads := State.reads_spans resumes.quantifierSpan resumes.modalitySpan resumes.boundSpan
    resumes.nonempty resumes.reads
  refine parse_of_reads spelled (by simp [resumes.nonempty]) ?_
  intro ls same
  obtain ⟨s, ran, c, rfl, ends⟩ := reads ls same
  exact ⟨_, ran, by simp [State.finish?, ends.finish?, reread]⟩

theorem text_reread (q : Query) : q.reread.text = q.text := by
  have condition : (q.condition.parseTree .chain).cond.text = q.condition.text :=
    q.condition.text_parseTree .chain
  have conditionText : q.reread.conditionText = q.conditionText := by
    unfold Query.conditionText
    rw [show q.reread.condition.leadingName? = _ from q.condition.leadingName?_parseTree,
      show q.reread.condition.text = _ from condition]
    rfl
  rw [text, text, conditionText]
  rfl

/-- Canonical text is read, and as a query that differs in its groups alone and has the same text. -/
theorem parse_text_regroups_nothing {q : Query} (h : q.Writable) :
    ∃ r, parse q.text = .ok r ∧ r.text = q.text ∧ r.quantifier = q.quantifier ∧
      r.modality = q.modality ∧ r.bound = q.bound ∧
      r.condition.ungrouped = q.condition.ungrouped :=
  ⟨q.reread, parse_text h, text_reread q, rfl, rfl, rfl, q.condition.ungrouped_parseTree .chain⟩

/-- A query whose operands are in no groups where its text needs them, and in one where it does not. -/
def looseOperands : Query where
  condition := .binary .strongUntil (.bare (.binary .subtract (.name "E") (.minus (.minus (.int 3)))))
    (.binary .implication (.unary .negation (.unary .nextState (.constant .truth)))
      (.binary .conjunction (.group (.bare (.name "42"))) (.bare (.name "until"))))

theorem looseOperands_regroups_nothing :
    looseOperands.Writable ∧
      ∃ r, parse looseOperands.text = .ok r ∧ r.text = looseOperands.text ∧
        r.quantifier = none ∧ r.modality = none ∧ r.bound = none ∧
        r.condition.ungrouped = looseOperands.condition.ungrouped :=
  have number : 3 ≤ maxInt := by decide
  have writable : looseOperands.Writable :=
    ⟨⟨⟨.of_check rfl, number⟩, trivial, .of_check rfl, .of_check rfl⟩, nofun⟩
  ⟨writable, parse_text_regroups_nothing writable⟩

end Query

/-! ### What was read -/

theorem ExprTree.writable {l : Layer} (t : ExprTree l) (h : ∀ u ∈ t.tokens, u.Writable) :
    t.expr.Writable := by
  induction t with
  | int n => exact h (.int n) (List.mem_singleton_self _)
  | name t x name => exact (h t (List.mem_singleton_self _)).isWord name
  | plain e ih | single a ih => exact ih h
  | group e ih =>
    simp only [tokens, List.forall_mem_cons, List.forall_mem_append] at h
    exact ih h.2.1
  | minus e ih =>
    simp only [tokens, List.forall_mem_cons] at h
    exact ih h.2
  | link e op a ihe iha =>
    simp only [tokens, List.forall_mem_cons, List.forall_mem_append] at h
    exact ⟨ihe h.1, iha h.2.2⟩

theorem CondTree.writable {l : Layer} (t : CondTree l) (h : ∀ u ∈ t.tokens, u.Writable) :
    t.cond.Writable := by
  induction t with
  | constant k s => trivial
  | bare e => exact e.writable h
  | compare e op s e' =>
    simp only [tokens, List.forall_mem_cons, List.forall_mem_append] at h
    exact ⟨e.writable h.1, e'.writable h.2.2⟩
  | plain c ih | single a ih => exact ih h
  | group c ih =>
    simp only [tokens, List.forall_mem_cons, List.forall_mem_append] at h
    exact ih h.2.1
  | unary op s c ih =>
    simp only [tokens, List.forall_mem_cons] at h
    exact ih h.2
  | link c op s a ihc iha =>
    simp only [tokens, List.forall_mem_cons, List.forall_mem_append] at h
    exact ⟨ihc h.1, iha h.2.2⟩

theorem BoundSpan.max_le {rest ts : List Token} {o : Option Bound} (span : BoundSpan rest ts o)
    (h : ∀ t ∈ ts, t.Writable) : ∀ b ∈ o, b.max ≤ maxInt := by
  cases span with
  | time s n | steps s n =>
    intro b hb
    obtain rfl := Option.some.inj hb
    exact h (.int n) (by simp)
  | absent => exact nofun

theorem Derivation.writable {ts : List Token} (d : Derivation ts) (h : ∀ t ∈ ts, t.Writable) :
    d.query.Writable := by
  rw [d.split] at h
  simp only [List.forall_mem_append] at h
  obtain ⟨_, _, bound, body⟩ := h
  exact ⟨d.body.writable body, d.boundSpan.max_le bound⟩

namespace Query

theorem writable_of_parse {text : String} {q : Query} (h : parse text = .ok q) : q.Writable := by
  obtain ⟨_, d, rfl⟩ := parse_eq_ok_iff.mp h
  exact d.writable writable_of_mem_lexFrom

theorem shaped_of_parse {text : String} {q : Query} (h : parse text = .ok q) :
    q.condition.Shaped := by
  obtain ⟨_, d, rfl⟩ := parse_eq_ok_iff.mp h
  exact d.body.shaped d.settled

theorem reread_of_shaped {q : Query} (h : q.condition.Shaped) : q.reread = q := by
  rw [reread, Condition.cond_parseTree_of_shaped h]

/-- A query that was read has its groups where reading puts them. -/
theorem reread_of_parse {text : String} {q : Query} (h : parse text = .ok q) : q.reread = q :=
  reread_of_shaped (shaped_of_parse h)

theorem parse_text_same {text : String} {q : Query} (h : parse text = .ok q) :
    parse q.text = .ok q := by
  rw [parse_text (writable_of_parse h), reread_of_parse h]

def canonicalize (text : String) : Except Failure String := (parse text).map Query.text

/-- The canonical text of what was read is read as the same query, and is its own canonical text. -/
theorem parse_text_of_parse {text : String} {q : Query} (h : parse text = .ok q) :
    parse q.text = .ok q ∧ canonicalize text = .ok q.text ∧ canonicalize q.text = .ok q.text := by
  have again := parse_text_same h
  refine ⟨again, ?_, ?_⟩
  · rw [canonicalize, h]
    rfl
  · rw [canonicalize, again]
    rfl

def looseText : String := "Pr <> [ # <= 007 ] ((\"12\" - - F)) until next(not 'g' and p.q /= 3)"

def looseQuery : Query where
  condition := .binary .strongUntil
    (.bare (.group (.group (.binary .subtract (.name "12") (.minus (.name "F"))))))
    (.unary .nextState (.group (.binary .conjunction (.unary .negation (.bare (.name "g")))
      (.compare (.name "p.q") .ne (.int 3)))))
  quantifier := some .probabilityR
  modality := some .eventually
  bound := some (.steps 7)

theorem parse_looseText :
    parse looseText = .ok looseQuery ∧ parse looseQuery.text = .ok looseQuery ∧
      canonicalize looseText = .ok looseQuery.text ∧
      canonicalize looseQuery.text = .ok looseQuery.text :=
  have read : parse looseText = .ok looseQuery := by decide +kernel
  ⟨read, parse_text_of_parse read⟩

end Query

end TemporalQuery
