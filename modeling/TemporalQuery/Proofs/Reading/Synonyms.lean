import TemporalQuery.Proofs.Canonical.Respelling
import TemporalQuery.Proofs.Lexing.Forms

/-!
# Synonyms

Tokens of one meaning can stand for each other, and so can any blanks between tokens. A text whose tokens
are written with other spellings, and with other blanks, is read as the same query
(`Query.parse_synonyms`).
-/

namespace TemporalQuery

open Lexeme

namespace Token

/-- The tokens are spellings of one operator or constant, or one token. -/
inductive Synonym : Token → Token → Prop
  | same (t : Token) : Synonym t t
  | constant (k : Constant) (s s' : String) : Synonym (constant k s) (constant k s')
  | unary (op : UnaryOp) (s s' : String) : Synonym (unary op s) (unary op s')
  | connective (op : Connective) (s s' : String) : Synonym (connective op s) (connective op s')
  | relation (op : RelOp) (s s' : String) : Synonym (relation op s) (relation op s')

/-- In a heading also a quantifier and a modality may be spelled otherwise. They are no names there. -/
inductive HeadingSynonym : Token → Token → Prop
  | other {t t' : Token} (h : t.Synonym t') : HeadingSynonym t t'
  | quantifier (k : Quantifier) (s s' : String) : HeadingSynonym (quantifier k s) (quantifier k s')
  | modality (m : Modality) (s s' : String) : HeadingSynonym (modality m s) (modality m s')

end Token

open Token

/-! ### Conditions -/

section

variable {α β : Type} {R : α → β → Prop} {xs ys : List α} {zs : List β}

theorem forall₂_append_left_iff : List.Forall₂ R (xs ++ ys) zs ↔
    ∃ us vs, List.Forall₂ R xs us ∧ List.Forall₂ R ys vs ∧ zs = us ++ vs := by
  constructor
  · intro h
    induction xs generalizing zs with
    | nil => exact ⟨[], zs, .nil, h, rfl⟩
    | cons x xs ih =>
      obtain ⟨z, zs, first, rest, rfl⟩ := List.forall₂_cons_left_iff.mp h
      obtain ⟨us, vs, left, right, rfl⟩ := ih rest
      exact ⟨z :: us, vs, .cons first left, right, rfl⟩
  · rintro ⟨us, vs, left, right, rfl⟩
    exact List.rel_append left right

end

variable {ts us : List Token}

/-- The tokens that no other one is a synonym of. -/
def Token.isFixed : Token → Bool
  | constant .. | unary .. | connective .. | relation .. => false
  | _ => true

theorem Token.Synonym.eq_of_isFixed {t u : Token} (h : t.Synonym u) (fixed : t.isFixed) : u = t := by
  cases h with
  | same => rfl
  | _ => cases fixed

theorem eq_of_synonyms (h : List.Forall₂ Synonym ts us) (fixed : ∀ t ∈ ts, t.isFixed) : us = ts := by
  induction h with
  | nil => rfl
  | cons first rest ih =>
    rw [List.forall_mem_cons] at fixed
    rw [first.eq_of_isFixed fixed.1, ih fixed.2]

/-- Expressions have one spelling only, but for their names, which stay as they are. -/
theorem ExprTree.isFixed_of_mem {l : Layer} (t : ExprTree l) : ∀ u ∈ t.tokens, u.isFixed := by
  induction t with
  | int n => exact List.forall_mem_singleton.mpr rfl
  | name u x named =>
    refine List.forall_mem_singleton.mpr ?_
    cases u with
    | constant | unary | connective | relation => cases named
    | _ => rfl
  | group e ih =>
    exact List.forall_mem_cons.mpr ⟨rfl,
      List.forall_mem_append.mpr ⟨ih, List.forall_mem_singleton.mpr rfl⟩⟩
  | minus e ih => exact List.forall_mem_cons.mpr ⟨rfl, ih⟩
  | plain e ih | single a ih => exact ih
  | link e op a ihe iha =>
    exact List.forall_mem_append.mpr ⟨ihe, List.forall_mem_cons.mpr ⟨rfl, iha⟩⟩

theorem ExprTree.eq_of_synonyms {l : Layer} (t : ExprTree l) (h : List.Forall₂ Synonym t.tokens us) :
    us = t.tokens := TemporalQuery.eq_of_synonyms h t.isFixed_of_mem

/-- A condition can be written with other synonyms, token by token. -/
theorem CondTree.exists_synonymous {l : Layer} (t : CondTree l) (h : List.Forall₂ Synonym t.tokens us) :
    ∃ t' : CondTree l, t'.tokens = us ∧ t'.cond = t.cond ∧ (t.Settled → t'.Settled) := by
  induction t generalizing us with
  | constant k s =>
    obtain ⟨u, _, first, rest, rfl⟩ := List.forall₂_cons_left_iff.mp h
    cases rest
    obtain ⟨s', rfl⟩ : ∃ s', u = .constant k s' := by cases first <;> exact ⟨_, rfl⟩
    exact ⟨.constant k s', rfl, rfl, id⟩
  | bare e => exact ⟨.bare e, (e.eq_of_synonyms h).symm, rfl, id⟩
  | compare e op s e' =>
    obtain ⟨vs, _, left, behind, rfl⟩ := forall₂_append_left_iff.mp h
    obtain ⟨u, ws, operator, right, rfl⟩ := List.forall₂_cons_left_iff.mp behind
    obtain ⟨s', rfl⟩ : ∃ s', u = .relation op s' := by cases operator <;> exact ⟨_, rfl⟩
    rw [e.eq_of_synonyms left, e'.eq_of_synonyms right]
    exact ⟨.compare e op s' e', rfl, rfl, id⟩
  | group c ih =>
    obtain ⟨u, _, first, rest, rfl⟩ := List.forall₂_cons_left_iff.mp h
    obtain ⟨vs, ws, inner, last, rfl⟩ := forall₂_append_left_iff.mp rest
    obtain rfl := first.eq_of_isFixed rfl
    obtain rfl := TemporalQuery.eq_of_synonyms last (List.forall_mem_singleton.mpr rfl)
    obtain ⟨c', rfl, same, settled⟩ := ih inner
    refine ⟨.group c', rfl, congrArg Condition.group same, fun h => ⟨?_, settled h.2⟩⟩
    rw [same]
    exact h.1
  | unary op s c ih =>
    obtain ⟨u, _, first, rest, rfl⟩ := List.forall₂_cons_left_iff.mp h
    obtain ⟨s', rfl⟩ : ∃ s', u = .unary op s' := by cases first <;> exact ⟨_, rfl⟩
    obtain ⟨c', rfl, same, settled⟩ := ih rest
    exact ⟨.unary op s' c', rfl, congrArg (Condition.unary op) same, settled⟩
  | plain c ih =>
    obtain ⟨c', tokens, same, settled⟩ := ih h
    exact ⟨.plain c', tokens, same, settled⟩
  | single a ih =>
    obtain ⟨a', tokens, same, settled⟩ := ih h
    exact ⟨.single a', tokens, same, settled⟩
  | link c op s a ihc iha =>
    obtain ⟨vs, _, left, behind, rfl⟩ := forall₂_append_left_iff.mp h
    obtain ⟨u, ws, operator, right, rfl⟩ := List.forall₂_cons_left_iff.mp behind
    obtain ⟨s', rfl⟩ : ∃ s', u = .connective op s' := by cases operator <;> exact ⟨_, rfl⟩
    obtain ⟨c', rfl, sameLeft, settledLeft⟩ := ihc left
    obtain ⟨a', rfl, sameRight, settledRight⟩ := iha right
    exact ⟨.link c' op s' a', rfl, congrArg₂ (Condition.binary op) sameLeft sameRight,
      fun h => ⟨settledLeft h.1, settledRight h.2⟩⟩

/-! ### Headings -/

theorem Token.HeadingSynonym.symm {t t' : Token} (h : t.HeadingSynonym t') : t'.HeadingSynonym t := by
  cases h with
  | other h => cases h <;> exact .other (by constructor)
  | quantifier k s s' => exact .quantifier k s' s
  | modality m s s' => exact .modality m s' s

theorem Token.HeadingSynonym.synonym {t t' : Token} (h : t.HeadingSynonym t') (closed : ¬ t.isOpening) :
    t.Synonym t' := by
  cases h with
  | other h => exact h
  | _ => exact absurd rfl closed

theorem forall₂_synonym (h : List.Forall₂ HeadingSynonym ts us) (closed : ∀ t ∈ ts, ¬ t.isOpening) :
    List.Forall₂ Synonym ts us := by
  induction h with
  | nil => exact .nil
  | cons first rest ih =>
    rw [List.forall_mem_cons] at closed
    exact .cons (first.synonym closed.1) (ih closed.2)

/-- What `make` makes of one value is only spelled otherwise. -/
def KeepsSynonyms {α : Type} (make : α → String → Token) : Prop :=
  ∀ a s u, (make a s).HeadingSynonym u → ∃ s', u = make a s'

theorem keepsSynonyms_quantifier : KeepsSynonyms Token.quantifier := by
  intro k s u h
  cases h with
  | quantifier _ _ s' => exact ⟨s', rfl⟩
  | other h =>
    cases h
    exact ⟨s, rfl⟩

theorem keepsSynonyms_modality : KeepsSynonyms Token.modality := by
  intro m s u h
  cases h with
  | modality _ _ s' => exact ⟨s', rfl⟩
  | other h =>
    cases h
    exact ⟨s, rfl⟩

section

variable {rest rest' : List Token}

theorem head?_of_forall₂ (h : List.Forall₂ HeadingSynonym rest rest') {t : Token}
    (first : rest'.head? = some t) : ∃ u, rest.head? = some u ∧ t.HeadingSynonym u := by
  cases h with
  | nil => cases first
  | cons same others =>
    obtain rfl := Option.some.inj first
    exact ⟨_, rfl, same.symm⟩

theorem HeadSpan.synonymous {α : Type} {make : α → String → Token} {o : Option α}
    (kept : KeepsSynonyms make) (span : HeadSpan make rest ts o) (h : List.Forall₂ HeadingSynonym ts us)
    (behind : List.Forall₂ HeadingSynonym rest rest') : HeadSpan make rest' us o := by
  cases span with
  | present a s =>
    obtain ⟨u, _, same, none, rfl⟩ := List.forall₂_cons_left_iff.mp h
    obtain ⟨s', rfl⟩ := kept a s u same
    cases none
    exact .present a s'
  | absent other =>
    cases h
    refine .absent fun a s first => ?_
    obtain ⟨u, found, same⟩ := head?_of_forall₂ behind first
    obtain ⟨s', rfl⟩ := kept a s u same
    exact other a s' found

theorem exists_of_bound_synonyms {letter : Token} {s : String} {n : Nat}
    (letters : letter = .ident "t" ∨ letter = .hash) (h : List.Forall₂ HeadingSynonym
      [.openBracket, letter, .relation .le s, .int n, .closeBracket] us) :
    ∃ s', us = [.openBracket, letter, .relation .le s', .int n, .closeBracket] := by
  have closed : ∀ t ∈ [.openBracket, letter, .relation .le s, .int n, .closeBracket], ¬ t.isOpening := by
    rcases letters with rfl | rfl <;> simp [isOpening]
  have fixed : ∀ t ∈ [.openBracket, letter], t.isFixed := by
    rcases letters with rfl | rfl <;> simp [isFixed]
  have synonyms : List.Forall₂ Synonym
      ([.openBracket, letter] ++ [.relation .le s, .int n, .closeBracket]) us := forall₂_synonym h closed
  obtain ⟨vs, _, front, behind, rfl⟩ := forall₂_append_left_iff.mp synonyms
  obtain ⟨u, ws, operator, rest, rfl⟩ := List.forall₂_cons_left_iff.mp behind
  obtain ⟨s', rfl⟩ : ∃ s', u = .relation .le s' := by cases operator <;> exact ⟨_, rfl⟩
  obtain rfl := eq_of_synonyms front fixed
  obtain rfl := eq_of_synonyms rest (by simp [isFixed])
  exact ⟨s', rfl⟩

theorem BoundSpan.synonymous {o : Option Bound} (span : BoundSpan rest ts o)
    (h : List.Forall₂ HeadingSynonym ts us) (behind : List.Forall₂ HeadingSynonym rest rest') :
    BoundSpan rest' us o := by
  cases span with
  | time s n =>
    obtain ⟨s', rfl⟩ := exists_of_bound_synonyms (.inl rfl) h
    exact .time s' n
  | steps s n =>
    obtain ⟨s', rfl⟩ := exists_of_bound_synonyms (.inr rfl) h
    exact .steps s' n
  | absent other =>
    cases h
    refine .absent fun first => ?_
    obtain ⟨u, found, same⟩ := head?_of_forall₂ behind first
    obtain rfl := (same.synonym (by decide)).eq_of_isFixed rfl
    exact other found

end

/-- The heading and the condition of a query written with other synonyms. -/
theorem Derivation.exists_synonymous (d : Derivation ts) {bs : List Token}
    (heading : List.Forall₂ HeadingSynonym d.heading us) (body : List.Forall₂ Synonym d.body.tokens bs) :
    ∃ d' : Derivation (us ++ bs), d'.query = d.query := by
  obtain ⟨qs, _, quantifier, rest, rfl⟩ := forall₂_append_left_iff.mp heading
  obtain ⟨ms, rs, modality, bound, rfl⟩ := forall₂_append_left_iff.mp rest
  obtain ⟨body', rfl, cond, settled⟩ := d.body.exists_synonymous body
  have condition : List.Forall₂ HeadingSynonym d.body.tokens body'.tokens := body.imp fun _ _ => .other
  have bounded := List.rel_append bound condition
  have modal := List.rel_append modality bounded
  exact ⟨{
    quantifierTokens := qs
    modalityTokens := ms
    boundTokens := rs
    body := body'
    quantifier := d.quantifier
    modality := d.modality
    bound := d.bound
    split := by simp
    quantifierSpan := d.quantifierSpan.synonymous keepsSynonyms_quantifier quantifier modal
    modalitySpan := d.modalitySpan.synonymous keepsSynonyms_modality modality bounded
    boundSpan := d.boundSpan.synonymous bound condition
    settled := settled d.settled }, by rw [query, query, cond]⟩

theorem Query.parse_spaced {text text' : String} {q : Query} (parsed : parse text = .ok q)
    (d : Derivation (lex text).tokens) {hs bs : List Token}
    (heading : List.Forall₂ HeadingSynonym d.heading hs) (body : List.Forall₂ Synonym d.body.tokens bs)
    {ws : List (List Char)} (spelled : List.Forall₂ (fun w t => Spells w [t]) ws (hs ++ bs))
    (spaced : Spaced ws text'.toList) : parse text' = .ok q := by
  obtain ⟨tokens, clean⟩ := spaced.spells spelled 1 0
  have tokens : (lex text').tokens = hs ++ bs := tokens
  obtain ⟨_, d₀, meant⟩ := parse_eq_ok_iff.mp parsed
  obtain rfl := Subsingleton.elim d₀ d
  obtain ⟨d', same⟩ := d₀.exists_synonymous heading body
  refine parse_eq_ok_iff.mpr ⟨clean, ?_⟩
  rw [tokens]
  exact ⟨d', same.trans meant⟩

namespace Token

theorem synonym_of_mem {f : Forms} (listed : f ∈ operatorForms) (x y : String) :
    (f.make x).Synonym (f.make y) := by
  have table : ∀ f ∈ operatorForms, ∀ x y, (f.make x).Synonym (f.make y) := by
    simp only [operatorForms, List.forall_mem_cons]
    refine ⟨.connective _, .connective _, .connective _, .unary _, .unary _, .relation _, .relation _,
      .constant _, .constant _, .constant _, by simp⟩
  exact table f listed x y

theorem headingSynonym_of_mem {f : Forms} (listed : f ∈ operatorForms ++ openingForms) (x y : String) :
    (f.make x).HeadingSynonym (f.make y) := by
  rcases List.mem_append.mp listed with listed | listed
  · exact .other (synonym_of_mem listed x y)
  · have table : ∀ f ∈ openingForms, ∀ x y, (f.make x).HeadingSynonym (f.make y) := by
      simp only [openingForms, List.forall_mem_cons]
      refine ⟨.quantifier _, .quantifier _, .modality _, .modality _, by simp⟩
    exact table f listed x y

end Token

/-- A text that is read stays the same query when any of its tokens are written in other forms and when other
blanks stand between them. A quantifier or a modality has other forms only in the heading. -/
theorem Query.parse_synonyms {text text' : String} {q : Query} (parsed : parse text = .ok q)
    (d : Derivation (lex text).tokens) {hs bs : List (List Char)}
    (heading : List.Forall₂ (WrittenAs (operatorForms ++ openingForms)) d.heading hs)
    (body : List.Forall₂ (WrittenAs operatorForms) d.body.tokens bs)
    (spaced : Spaced (hs ++ bs) text'.toList) : parse text' = .ok q := by
  obtain ⟨us, headingSynonyms, headingSpelled⟩ :=
    exists_spelled (List.Subset.refl _) (fun t => .other (.same t)) (fun _ => headingSynonym_of_mem) heading
  obtain ⟨vs, synonyms, spelled⟩ :=
    exists_spelled (List.subset_append_left _ _) .same (fun _ => synonym_of_mem) body
  exact parse_spaced parsed d headingSynonyms synonyms (List.rel_append headingSpelled spelled) spaced

def Query.denied : Query where
  condition := .binary .conjunction (.unary .negation (.bare (.name "a"))) (.compare (.int 7) .eq (.name "F"))
  quantifier := some .probability
  modality := some .eventually

def Query.derivationDenied : Derivation (lex "P F !\"a\"&7=F").tokens where
  quantifierTokens := [.quantifier .probability "P"]
  modalityTokens := [.modality .eventually "F"]
  boundTokens := []
  body := .link (.single (.unary .negation "!" (.bare (.single (.plain (.name (.quoted "a") "a" rfl))))))
    .conjunction "&" (.plain (.compare (.single (.plain (.int 7))) .eq "="
      (.single (.plain (.name (.modality .eventually "F") "F" rfl)))))
  quantifier := some .probability
  modality := some .eventually
  bound := none
  split := by decide +kernel
  quantifierSpan := .present Quantifier.probability "P"
  modalitySpan := .present Modality.eventually "F"
  boundSpan := .absent (by decide)
  settled := ⟨trivial, trivial⟩

/-- All but the last `F`, which is a name, is written otherwise. -/
theorem Query.denied_synonyms :
    parse "P F !\"a\"&7=F" = .ok denied ∧ parse "p\t<>\nNot 'a' AND \r007 == F" = .ok denied := by
  have read : parse "P F !\"a\"&7=F" = .ok denied := by decide +kernel
  have heading : List.Forall₂ (WrittenAs (operatorForms ++ openingForms)) derivationDenied.heading
      [['p'], ['<', '>']] :=
    .cons (.anyCase (f := ⟨Token.quantifier .probability, [], ["p"]⟩) (by simp [openingForms]) "P" rfl
      (s := "p") (by simp) rfl) <|
    .cons (.exact (f := ⟨Token.modality .eventually, ["F", "<>"], []⟩) (by simp [openingForms]) "F" rfl
      (by decide)) .nil
  have body : List.Forall₂ (WrittenAs operatorForms) derivationDenied.body.tokens
      [['N', 'o', 't'], ['\'', 'a', '\''], ['A', 'N', 'D'], ['0', '0', '7'], ['=', '='], ['F']] :=
    .cons (.anyCase (f := ⟨Token.unary .negation, ["!"], ["not"]⟩) (by simp [operatorForms]) "!" rfl
      (s := "not") (by simp) rfl) <|
    .cons (.same (.of_longest (by decide +kernel))) <|
    .cons (.anyCase (f := ⟨Token.connective .conjunction, ["&", "&&"], ["and"]⟩) (by simp [operatorForms])
      "&" rfl (s := "and") (by simp) rfl) <|
    .cons (.same (.of_longest (by decide +kernel))) <|
    .cons (.exact (f := ⟨Token.relation .eq, ["=", "=="], []⟩) (by simp [operatorForms]) "=" rfl
      (by decide)) <|
    .cons (.same (.of_longest (by decide +kernel))) .nil
  have gap (cs : List Char) (blank : cs.all (fun c => decide (IsSpace c))) : ∀ c ∈ cs, IsSpace c := by
    simpa using blank
  refine ⟨read, parse_synonyms read derivationDenied heading body ?_⟩
  exact .cons _ ['\t'] (by decide) (gap _ rfl) (.cons _ ['\n'] (by decide) (gap _ rfl)
    (.cons _ [' '] (by decide) (gap _ rfl) (.cons _ [' '] (by decide) (gap _ rfl)
    (.cons _ [' ', '\r'] (by decide) (gap _ rfl) (.cons _ [' '] (by decide) (gap _ rfl)
    (.cons _ [' '] (by decide) (gap _ rfl) (.last _)))))))

end TemporalQuery
