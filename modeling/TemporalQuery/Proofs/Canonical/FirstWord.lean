import TemporalQuery.Proofs.Names

/-!
# The word between quotes

The name that a condition is said to lead with is the first token of its text, and there is none just if
that token is no name. Where a query has to put the name between quotes, the text starts with the bare
word, and nothing but this word comes to stand between them (`Query.quotes_first_word`).
-/

namespace TemporalQuery

open Lexeme

theorem Token.Unnamed.isName {t : Token} (h : t.Unnamed) : t.isName = false := by
  obtain ⟨unnamed, notOpening⟩ := h
  cases t with
  | ident x | quoted x => cases unnamed
  | quantifier k x | modality m x => exact absurd rfl notOpening
  | _ => rfl

namespace Condition

variable {c : Condition} {x : String}

theorem tokens_text (h : c.Writable) : (lex c.text).tokens = (c.parseTree .chain).tokens :=
  ((detached_parseTree h .chain).spells 1 0).1

/-- The text goes on behind the name with something that is no part of a word. -/
theorem exists_text (h : c.Writable) (lead : c.leadingName? = some x) :
    ∃ rest, c.text = Identifier.text x ++ rest ∧ ∀ d ∈ rest.toList.head?, isWordChar d = false := by
  obtain ⟨rest, us, text, _, _, apart, _⟩ := leads h lead
  refine ⟨String.ofList rest, ?_, fun d first => ?_⟩
  · rw [← String.toList_inj, text]
    simp
  · rw [String.toList_ofList] at first
    have letter : isWordChar 'a' = true := by decide
    have separate : joins 'a' d = false := apart ['a'] 'a' rfl d first
    rw [joins, letter, Bool.true_and, Bool.or_eq_false_iff] at separate
    exact separate.1

theorem head?_tokens_text (h : c.Writable) (lead : c.leadingName? = some x) :
    (lex c.text).tokens.head? = some (Identifier.token x) := by
  obtain ⟨_, us, _, tokens, _⟩ := leads h lead
  rw [tokens_text h, tokens]
  rfl

theorem exists_unnamed (h : c.Writable) (lead : c.leadingName? = none) :
    ∃ t, (lex c.text).tokens.head? = some t ∧ t.isName = false := by
  obtain ⟨t, ts, tokens⟩ := List.exists_cons_of_ne_nil (c.parseTree .chain).tokens_ne_nil
  have first : (c.parseTree .chain).tokens.head? = some t := by
    rw [tokens]
    rfl
  rw [tokens_text h]
  exact ⟨t, first, (unnamed_head lead t first).isName⟩

end Condition

namespace Query

variable {q : Query} {x : String}

/-- A word is read as heading only where there is neither a modality nor a bound. -/
theorem readsAsHeading_spec (h : q.readsAsHeading x) : q.modality = none ∧ q.bound = none := by
  unfold readsAsHeading at h
  split at h
  · exact (of_decide_eq_true h).2
  · exact of_decide_eq_true h
  · cases h

theorem text_of_readsAsHeading (h : q.readsAsHeading x) :
    q.text = q.quantifier.elim "" (·.symbol ++ " ") ++ q.conditionText := by
  obtain ⟨modality, bound⟩ := readsAsHeading_spec h
  rw [text, modality, bound]
  cases q.quantifier with
  | none => simp
  | some k => simp [String.intercalate_cons_of_ne_nil]

theorem conditionText_of_readsAsHeading {rest : String} (lead : q.condition.leadingName? = some x)
    (h : q.readsAsHeading x) (bare : q.condition.text = x ++ rest) :
    q.conditionText = Identifier.quoted x ++ rest := by
  rw [conditionText, lead, bare]
  simp [h, ← String.length_toList]

/-- A condition leads with a name exactly if its text has that name as its first token. Quotes that keep
the name from being read as heading are put around just the first word of the text. -/
theorem quotes_first_word (h : q.condition.Writable) :
    (∀ x, q.condition.leadingName? = some x →
      (∃ rest, q.condition.text = Identifier.text x ++ rest) ∧
        ∃ t, (lex q.condition.text).tokens.head? = some t ∧ t.isName ∧ t.text = x) ∧
    (q.condition.leadingName? = none →
      ∃ t, (lex q.condition.text).tokens.head? = some t ∧ t.isName = false) ∧
    ∀ x, q.condition.leadingName? = some x → q.readsAsHeading x →
      ∃ rest, q.condition.text = x ++ rest ∧
        q.condition.text.toList.takeWhile isWordChar = x.toList ∧
        q.text = q.quantifier.elim "" (·.symbol ++ " ") ++ (Identifier.quoted x ++ rest) := by
  refine ⟨fun x lead => ?_, Condition.exists_unnamed h, fun x lead clash => ?_⟩
  · obtain ⟨rest, text, _⟩ := Condition.exists_text h lead
    obtain ⟨isName, value⟩ := Token.isName_of_name? (Identifier.name?_token x)
    exact ⟨⟨rest, text⟩, _, Condition.head?_tokens_text h lead, isName, value⟩
  · obtain ⟨rest, text, behind⟩ := Condition.exists_text h lead
    obtain ⟨t, found, opening⟩ := exists_opening_of_readsAsHeading clash
    have word : Identifier.IsWord x := Condition.isWord_of_leadingName? h lead
    rw [Identifier.text, Identifier.needsQuotes_of_isOpening word found opening] at text
    refine ⟨rest, text, ?_, ?_⟩
    · rw [show q.condition.text = x ++ rest from text, String.toList_append,
        takeWhile_isWordChar_append fun _ => behind]
      exact List.takeWhile_eq_self_iff.mpr word.word
    · rw [text_of_readsAsHeading clash, conditionText_of_readsAsHeading lead clash text]

/-- `E "G" + 1 > "7" until deadlock` -/
def growing : Query where
  condition := .binary .strongUntil (.compare (.binary .add (.name "G") (.int 1)) .gt (.name "7"))
    (.constant .deadlock)
  quantifier := some .existential

/-- Behind `E` the bare `G` would be a modality. The name `7` has its quotes already. -/
theorem growing_quoted :
    growing.condition.Writable ∧
      (growing.condition.leadingName? = some "G" ∧ growing.readsAsHeading "G") ∧
      (∃ t, (lex growing.condition.text).tokens.head? = some t ∧ t.isName ∧ t.text = "G") ∧
      ∃ rest, growing.condition.text = "G" ++ rest ∧
        growing.condition.text.toList.takeWhile isWordChar = ['G'] ∧
        growing.text = "E " ++ (Identifier.quoted "G" ++ rest) := by
  have number : 1 ≤ maxInt := by decide
  have writable : growing.condition.Writable := ⟨⟨⟨.of_check rfl, number⟩, .of_check rfl⟩, trivial⟩
  have clash : growing.readsAsHeading "G" := by decide
  obtain ⟨named, _, quoted⟩ := quotes_first_word writable
  exact ⟨writable, ⟨rfl, clash⟩, (named "G" rfl).2, quoted "G" rfl clash⟩

end Query

end TemporalQuery
