import TemporalQuery.Proofs.Canonical.RoundTrip

/-!
# Respelling

Canonical text has the tokens of the text it was read from, spelled anew: none is dropped, added or
moved (`Query.text_respells`). Within a condition all tokens for one name are the same.
-/

namespace TemporalQuery

namespace Token

/-- The same token of a heading up to spelling; a probability keeps its `r`. -/
structure SameInHeading (t t' : Token) : Prop where
  label : t.label = t'.label
  value : ∀ n, t = .int n ↔ t' = .int n
  letters : t.label = "PROBABILITY" → (fold t.text = "pr" ↔ fold t'.text = "pr")

/-- The same name, or the same token up to spelling. -/
structure SameInCondition (t t' : Token) : Prop where
  name : t.name? = t'.name?
  label : t.name? = none → t.label = t'.label
  value : ∀ n, t = .int n ↔ t' = .int n

variable {t t' : Token}

theorem unspelled_spec (t : Token) :
    t.unspelled.name? = t.name? ∧ (t.name? = none → t.unspelled.label = t.label) ∧
      ∀ n, t.unspelled = .int n ↔ t = .int n := by
  cases named : t.name? with
  | some x =>
    rw [unspelled_name named]
    refine ⟨rfl, nofun, fun n => ?_⟩
    constructor
    · nofun
    · rintro rfl
      cases named
  | none =>
    cases t with
    | modality m x =>
      have same : (modality m x).unspelled = modality m x := by
        unfold unspelled
        rw [named]
      exact ⟨by rw [same, named], fun _ => by rw [same], fun n => by rw [same]⟩
    | ident | quoted | quantifier => cases named
    | constant k s => exact ⟨rfl, fun _ => by cases k <;> rfl, fun n => by simp [unspelled, name?]⟩
    | unary op s => exact ⟨rfl, fun _ => by cases op <;> rfl, fun n => by simp [unspelled, name?]⟩
    | _ => exact ⟨rfl, fun _ => rfl, fun n => by simp [unspelled, name?]⟩

theorem sameInCondition_of_unspelled (h : t.unspelled = t'.unspelled) : SameInCondition t t' := by
  obtain ⟨name, label, value⟩ := t.unspelled_spec
  obtain ⟨name', label', value'⟩ := t'.unspelled_spec
  have names : t.name? = t'.name? := by rw [← name, h, name']
  refine ⟨names, fun none => ?_, fun n => ?_⟩
  · rw [← label none, h, label' (names ▸ none)]
  · rw [← value, h, value']

theorem SameInHeading.refl (t : Token) : SameInHeading t t :=
  ⟨rfl, fun _ => Iff.rfl, fun _ => Iff.rfl⟩

theorem sameInHeading_of_label (label : t.label = t'.label) (value : ∀ n, t = .int n ↔ t' = .int n)
    (other : t.label ≠ "PROBABILITY") : SameInHeading t t' :=
  ⟨label, value, fun probability => absurd probability other⟩

end Token

open Token

theorem forall₂_quantifierSpan {rest rest' ts ts' : List Token} {o : Option Quantifier}
    (h : QuantifierSpan rest ts o) (h' : QuantifierSpan rest' ts' o)
    (faithful : ∀ t ∈ ts, t.Faithful) (faithful' : ∀ t ∈ ts', t.Faithful) :
    List.Forall₂ SameInHeading ts ts' := by
  cases h with
  | absent =>
    cases h' with
    | absent => exact .nil
  | present k s =>
    cases h' with
    | present _ s' =>
      have spelled : fold s = fold k.symbol := faithful _ (List.mem_singleton_self _)
      have spelled' : fold s' = fold k.symbol := faithful' _ (List.mem_singleton_self _)
      have letters : fold s = "pr" ↔ fold s' = "pr" := by rw [spelled, spelled']
      exact .cons ⟨by cases k <;> rfl, by simp, fun _ => letters⟩ .nil

theorem forall₂_modalitySpan {rest rest' ts ts' : List Token} {o : Option Modality}
    (h : ModalitySpan rest ts o) (h' : ModalitySpan rest' ts' o) :
    List.Forall₂ SameInHeading ts ts' := by
  cases h with
  | absent =>
    cases h' with
    | absent => exact .nil
  | present m s =>
    cases h' with
    | present _ s' =>
      have other : m.label ≠ "PROBABILITY" := by cases m <;> decide
      exact .cons (sameInHeading_of_label rfl (by simp) other) .nil

theorem forall₂_boundSpan {rest rest' ts ts' : List Token} {o : Option Bound}
    (h : BoundSpan rest ts o) (h' : BoundSpan rest' ts' o) : List.Forall₂ SameInHeading ts ts' := by
  have relation (s s' : String) : SameInHeading (.relation .le s) (.relation .le s') :=
    sameInHeading_of_label rfl (by simp) (show RelOp.le.label ≠ "PROBABILITY" by decide)
  have bracketed (letter : Token) (s s' : String) (n : Nat) : List.Forall₂ SameInHeading
      [.openBracket, letter, .relation .le s, .int n, .closeBracket]
      [.openBracket, letter, .relation .le s', .int n, .closeBracket] :=
    .cons (.refl _) (.cons (.refl _) (.cons (relation s s') (.cons (.refl _) (.cons (.refl _) .nil))))
  cases h with
  | absent =>
    cases h' with
    | absent => exact .nil
  | time s n =>
    cases h' with
    | time s' _ => exact bracketed _ s s' n
  | steps s n =>
    cases h' with
    | steps s' _ => exact bracketed _ s s' n

/-- The tokens in front of the condition. -/
def Derivation.heading {ts : List Token} (d : Derivation ts) : List Token :=
  d.quantifierTokens ++ (d.modalityTokens ++ d.boundTokens)

theorem Derivation.eq_heading_append {ts : List Token} (d : Derivation ts) :
    ts = d.heading ++ d.body.tokens := by
  simpa [heading] using d.split

theorem Derivation.forall₂_heading {ts ts' : List Token} (d : Derivation ts) (d' : Derivation ts')
    (same : d.query = d'.query) (faithful : ∀ t ∈ ts, t.Faithful) (faithful' : ∀ t ∈ ts', t.Faithful) :
    List.Forall₂ SameInHeading d.heading d'.heading := by
  obtain ⟨_, quantifier, modality, bound⟩ := Query.mk.inj same
  rw [d.split, List.forall_mem_append] at faithful
  rw [d'.split, List.forall_mem_append] at faithful'
  have quantifierSpan := d'.quantifierSpan
  have modalitySpan := d'.modalitySpan
  have boundSpan := d'.boundSpan
  rw [← quantifier] at quantifierSpan
  rw [← modality] at modalitySpan
  rw [← bound] at boundSpan
  exact List.rel_append (forall₂_quantifierSpan d.quantifierSpan quantifierSpan faithful.1 faithful'.1)
    (List.rel_append (forall₂_modalitySpan d.modalitySpan modalitySpan)
      (forall₂_boundSpan d.boundSpan boundSpan))

theorem CondTree.forall₂_tokens {l l' : Layer} {t : CondTree l} {t' : CondTree l'}
    (same : t.cond = t'.cond) : List.Forall₂ SameInCondition t.tokens t'.tokens := by
  have unspelled : t.tokens.map unspelled = t'.tokens.map unspelled := by
    rw [t.map_unspelled, t'.map_unspelled, same]
  rw [← List.forall₂_eq_eq_eq, List.forall₂_map_left_iff, List.forall₂_map_right_iff] at unspelled
  exact unspelled.imp fun _ _ => sameInCondition_of_unspelled

/-- The canonical text of a query has just the tokens of the text the query was read from, one for one:
the same heading, and the same condition with its names written in some way. -/
theorem Query.text_respells {text : String} {q : Query} (h : parse text = .ok q) :
    (lex text).fault = none ∧ (lex q.text).fault = none ∧
      (lex q.text).tokens.length = (lex text).tokens.length ∧
      ∃ d : Derivation (lex text).tokens, ∃ d' : Derivation (lex q.text).tokens,
        d.query = q ∧ d'.query = q ∧ List.Forall₂ SameInHeading d.heading d'.heading ∧
          List.Forall₂ SameInCondition d.body.tokens d'.body.tokens := by
  obtain ⟨clean, d, meant⟩ := parse_eq_ok_iff.mp h
  obtain ⟨clean', d', meant'⟩ := parse_eq_ok_iff.mp (parse_text_same h)
  have same : d.query = d'.query := meant.trans meant'.symm
  have heading := d.forall₂_heading d' same Lexeme.faithful_of_mem_lexFrom Lexeme.faithful_of_mem_lexFrom
  have body : List.Forall₂ SameInCondition d.body.tokens d'.body.tokens :=
    CondTree.forall₂_tokens (congrArg Query.condition same)
  refine ⟨clean, clean', ?_, d, d', meant, meant', heading, body⟩
  rw [d.eq_heading_append, d'.eq_heading_append, List.length_append, List.length_append,
    heading.length_eq, body.length_eq]

def Query.terse : Query where
  condition := .binary .disjunction
    (.unary .negation (.group (.compare (.name "a") .eq (.binary .modulo (.name "F") (.int 7)))))
    (.bare (.name "true"))
  quantifier := some .probabilityR
  modality := some .globally
  bound := some (.time 5)

/-- `Pr G [t<=5] !(a = F % 7) | "true"`, written otherwise. -/
theorem Query.terse_respells :
    parse "pR[][t<=05]not('a'==F%007)||'true'" = .ok terse ∧
      ((lex "pR[][t<=05]not('a'==F%007)||'true'").fault = none ∧ (lex terse.text).fault = none ∧
        (lex terse.text).tokens.length = (lex "pR[][t<=05]not('a'==F%007)||'true'").tokens.length ∧
        ∃ d : Derivation (lex "pR[][t<=05]not('a'==F%007)||'true'").tokens,
          ∃ d' : Derivation (lex terse.text).tokens, d.query = terse ∧ d'.query = terse ∧
            List.Forall₂ SameInHeading d.heading d'.heading ∧
            List.Forall₂ SameInCondition d.body.tokens d'.body.tokens) :=
  have read : parse "pR[][t<=05]not('a'==F%007)||'true'" = .ok terse := by decide +kernel
  ⟨read, text_respells read⟩

end TemporalQuery
