import TemporalQuery.Proofs.Canonical.Respelling

/-!
# Quotes where they are needed

Canonical text has no pair of quotes that could be left out: without it the text is another query or none
(`Query.parse_unquoted_ne`). The tokens around the name stay, so the name would have to be read from the
bare word, and the word is read as something else there.
-/

namespace TemporalQuery

open Lexeme

/-! ### A bare word -/

/-- A bare word is lexed to the token of its name, or to what is no name. -/
theorem Identifier.token_of_ofWord {x : String} (word : IsWord x) {t : Token}
    (made : ofWord x.toList = .ok t) :
    needsQuotes x = false ∧ t = token x ∨ needsQuotes x = true ∧ t.Unnamed := by
  by_cases needed : needsQuotes x
  · refine .inr ⟨needed, ?_⟩
    by_cases digits : x.toList.all Char.isDigit
    · rw [ofWord, if_pos digits] at made
      split at made
      · obtain rfl := Except.ok.inj made
        exact ⟨rfl, Bool.false_ne_true⟩
      · cases made
    · have reserved : (Token.keyword? x).any (!·.isOpening) := by
        simpa [needsQuotes, Token.isReserved, word.all_isDigit, digits] using needed
      obtain ⟨t', found, closed⟩ := (Option.any_eq_true _ _).mp reserved
      have notOpening : ¬ t'.isOpening := by simpa using closed
      rw [ofWord, if_neg digits, String.ofList_toList, found] at made
      obtain rfl := Except.ok.inj made
      exact ⟨(Token.name?_keyword? found).trans (if_neg notOpening), notOpening⟩
  · have bare : needsQuotes x = false := by simpa using needed
    exact .inl ⟨bare, Except.ok.inj (made.symm.trans (ofWord_eq_token word needed))⟩

/-- A word is read as the name that it spells only if the name is written without quotes. -/
theorem Identifier.not_needsQuotes_of_name? {x : String} (word : IsWord x) {t : Token}
    (made : ofWord x.toList = .ok t) (named : t.name? = some x) :
    needsQuotes x = false ∧ t = (Token.keyword? x).getD (.ident x) := by
  rcases token_of_ofWord word made with ⟨bare, rfl⟩ | ⟨_, unnamed, _⟩
  · exact ⟨bare, by simp [token, bare]⟩
  · rw [unnamed] at named
    cases named

/-! ### Headings of one query -/

section

variable {rest rest' ts ts' : List Token}

theorem HeadSpan.length_eq {α : Type} {make : α → String → Token} {o : Option α}
    (h : HeadSpan make rest ts o) (h' : HeadSpan make rest' ts' o) : ts.length = ts'.length := by
  cases h <;> cases h' <;> rfl

theorem BoundSpan.length_eq {o : Option Bound} (h : BoundSpan rest ts o) (h' : BoundSpan rest' ts' o) :
    ts.length = ts'.length := by
  cases h <;> cases h' <;> rfl

end

namespace Query

variable {q : Query} {rs ts : List Token}

/-- The tokens of the heading in canonical text. -/
def headingTokens (q : Query) : List Token := q.quantifierTokens ++ (q.modalityTokens ++ q.boundTokens)

theorem quoted_notMem_headingTokens (q : Query) (x : String) : .quoted x ∉ q.headingTokens := by
  unfold headingTokens quantifierTokens modalityTokens boundTokens
  cases q.quantifier <;> cases q.modality <;> cases q.bound with
  | none => simp
  | some b => cases b <;> simp [Bound.tokens]

/-- The heading of a query is as long wherever it is read, so that the same tokens are left. -/
theorem Resumes.body_tokens (h : q.Resumes rs) (d : Derivation ts) (meant : d.query = q) {vs : List Token}
    (split : ts = q.headingTokens ++ vs) : d.body.tokens = vs := by
  obtain rfl := meant
  have quantifier := h.quantifierSpan.length_eq d.quantifierSpan
  have modality := h.modalitySpan.length_eq d.modalitySpan
  have bound := h.boundSpan.length_eq d.boundSpan
  have parts := split.symm.trans d.split
  rw [headingTokens, List.append_assoc, List.append_assoc] at parts
  have rest := (List.append_inj parts quantifier).2
  have rest := (List.append_inj rest modality).2
  exact (List.append_inj rest bound).2.symm

/-- No condition starts with a word that would be read as heading. -/
theorem readsAsHeading_of_derivation (d : Derivation ts) {t : Token} {x : String}
    (first : t ∈ d.body.tokens.head?) (found : Token.keyword? x = some t) :
    d.query.readsAsHeading x = false := by
  have unbounded (none : d.bound = none) : d.boundTokens = [] := by
    have span := d.boundSpan
    rw [none] at span
    exact span.eq_nil
  have unmodal (none : d.modality = none) : d.modalityTokens = [] := by
    have span := d.modalitySpan
    rw [none] at span
    exact span.eq_nil
  unfold readsAsHeading
  rw [found]
  cases t with
  | quantifier k s =>
    refine decide_eq_false ?_
    rintro ⟨quantifier, modality, bound⟩
    have span := d.quantifierSpan
    rw [unmodal modality, unbounded bound, show d.quantifier = none from quantifier] at span
    exact span.head?_ne k s first
  | modality k s =>
    refine decide_eq_false ?_
    rintro ⟨modality, bound⟩
    have span := d.modalitySpan
    rw [unbounded bound, show d.modality = none from modality] at span
    exact span.head?_ne k s first
  | _ => rfl

/-- With the bare word in place of the quoted name, no reading gives the query. -/
theorem Resumes.query_ne {us vs : List Token} {x : String} (h : q.Resumes (us ++ .quoted x :: vs))
    (d : Derivation (q.headingTokens ++ (us ++ .quoted x :: vs))) (meant : d.query = q)
    (word : Identifier.IsWord x) {t : Token} (made : ofWord x.toList = .ok t)
    (d' : Derivation (q.headingTokens ++ (us ++ t :: vs))) : d'.query ≠ q := by
  intro meant'
  have body := h.body_tokens d meant rfl
  have body' := h.body_tokens d' meant' rfl
  have conditions : d.body.cond = d'.body.cond := congrArg Query.condition (meant.trans meant'.symm)
  have unspelled : (us ++ .quoted x :: vs).map Token.unspelled = (us ++ t :: vs).map Token.unspelled := by
    rw [← body, ← body', d.body.map_unspelled, d'.body.map_unspelled, conditions]
  simp only [List.map_append, List.map_cons, List.append_cancel_left_eq, List.cons.injEq, and_true]
    at unspelled
  have named : t.name? = some x := (Token.sameInCondition_of_unspelled unspelled).name.symm
  obtain ⟨bare, rfl⟩ := Identifier.not_needsQuotes_of_name? word made named
  rcases h.quotes us x vs rfl with needed | ⟨rfl, clash⟩
  · simp [bare] at needed
  · obtain ⟨t, found, _⟩ := exists_opening_of_readsAsHeading clash
    have free := readsAsHeading_of_derivation d' (by simp [body', found]) found
    rw [meant', clash] at free
    cases free

/-- Each quoted name in the canonical text of a query that was read stands between its quotes for a
reason: the text with just these two left out is refused or read as another query. -/
theorem parse_unquoted_ne {text : String} (parsed : parse text = .ok q) {l : Lexeme} {x : String}
    (mem : l ∈ (lex q.text).lexemes) (quoted : l.token = .quoted x) :
    ∃ u v, q.text = u ++ Identifier.quoted x ++ v ∧ u.length = l.start ∧
      parse (u ++ x ++ v) ≠ .ok q := by
  have writable := writable_of_parse parsed
  obtain ⟨rs, resumes⟩ := exists_resumes writable.condition
  have detached : Detached q.text.toList (q.headingTokens ++ rs) := by
    simpa [headingTokens] using detached_text writable resumes.spelled
  have tokens : (lex q.text).tokens = q.headingTokens ++ rs := (detached.spells 1 0).1
  obtain ⟨ms, ns, split⟩ := List.append_of_mem mem
  have here : q.headingTokens ++ rs = ms.map (·.token) ++ .quoted x :: ns.map (·.token) := by
    rw [← tokens, Lexed.tokens, split, List.map_append, List.map_cons, quoted]
  obtain ⟨u, v, chars, front, behind, framed⟩ := detached.around _ _ _ here
  have occurs : .quoted x ∈ (lex q.text).tokens := by simp [tokens, here]
  have word : Identifier.IsWord x := writable_of_mem_lexFrom _ occurs
  refine ⟨String.ofList u, String.ofList v, ?_, ?_, fun again => ?_⟩
  · rw [← String.toList_inj, chars]
    simp
  · have placed : (lexFrom 1 0 q.text.toList).lexemes = ms ++ l :: ns := split
    rw [chars] at placed
    rw [start_of_quoted front placed]
    simp
  · obtain ⟨clean, read'⟩ := parse_eq_ok_iff.mp again
    obtain ⟨_, read⟩ := parse_eq_ok_iff.mp (parse_text_same parsed)
    have bareChars : (String.ofList u ++ x ++ String.ofList v).toList = u ++ (x.toList ++ v) := by simp
    have found : (lexFrom 1 0 (u ++ (x.toList ++ v))).fault = none := bareChars ▸ clean
    obtain ⟨t, made, bare⟩ := framed.tokens_bare front behind word.nonempty word.word found
    rw [← bareChars] at bare
    -- The tokens of both texts are those of the heading and of the condition, with one of these replaced.
    rcases exists_of_append_eq_append_cons here with ⟨_, heading, _⟩ | ⟨us, rfl, heading⟩
    · exact absurd (by simp [heading]) (q.quoted_notMem_headingTokens x)
    · rw [heading, List.append_assoc] at bare
      rw [tokens] at read
      rw [show (lex _).tokens = _ from bare] at read'
      obtain ⟨d, meant⟩ := read
      obtain ⟨d', meant'⟩ := read'
      exact resumes.query_ne d meant word made d' meant'

def fenced : Query where
  condition := .binary .conjunction (.compare (.binary .subtract (.name "F") (.name "G")) .eq (.name "until"))
    (.bare (.name "x"))

/-- The names `F`, which would be a modality, and `until` need their quotes; `G` and `x` have none. -/
theorem fenced_unquoted :
    parse "'F' - 'G' = 'until' & 'x'" = .ok fenced ∧ fenced.text = "\"F\" - G = \"until\" & x" ∧
      (⟨.quoted "F", 1, 0, 3⟩ ∈ (lex fenced.text).lexemes ∧
        ∃ u v, fenced.text = u ++ Identifier.quoted "F" ++ v ∧ u.length = 0 ∧
          parse (u ++ "F" ++ v) ≠ .ok fenced) ∧
      ⟨.quoted "until", 1, 10, 17⟩ ∈ (lex fenced.text).lexemes ∧
        ∃ u v, fenced.text = u ++ Identifier.quoted "until" ++ v ∧ u.length = 10 ∧
          parse (u ++ "until" ++ v) ≠ .ok fenced := by
  have read : parse "'F' - 'G' = 'until' & 'x'" = .ok fenced := by decide +kernel
  have leading : ⟨.quoted "F", 1, 0, 3⟩ ∈ (lex fenced.text).lexemes := by decide +kernel
  have keyword : ⟨.quoted "until", 1, 10, 17⟩ ∈ (lex fenced.text).lexemes := by decide +kernel
  exact ⟨read, by decide +kernel, ⟨leading, parse_unquoted_ne read leading rfl⟩, keyword,
    parse_unquoted_ne read keyword rfl⟩

end Query

end TemporalQuery
