import TemporalQuery.Proofs.Canonical.ParseTree
import TemporalQuery.Proofs.Reading.Completeness

/-!
# The first word of a condition

Canonical text puts the first name of a condition between quotes exactly where it would be read as a
heading. The text that results is read as the same condition (`Query.exists_resumes`).
-/

namespace TemporalQuery

open Lexeme Reading

/-- The text and its tokens start with the name, and no token goes on after it. -/
def Leads (x s : String) (ts : List Token) : Prop :=
  ∃ rest us, s.toList = (Identifier.text x).toList ++ rest ∧ ts = Identifier.token x :: us ∧
    Detached rest us ∧ (∀ u, Apart u rest) ∧ ∀ u, Clear u rest

theorem Leads.spaced {x s s' : String} {v : List Char} {ts us : List Token} (h : Leads x s ts)
    (text : s'.toList = s.toList ++ ' ' :: v) (hv : Detached v us) : Leads x s' (ts ++ us) := by
  obtain ⟨rest, rs, start, rfl, spelled, apart, clear⟩ := h
  refine ⟨rest ++ ' ' :: v, rs ++ us, ?_, rfl, spelled.spaced hv, fun u => ?_, fun u => ?_⟩
  · rw [text, start, List.append_assoc]
  · exact (apart u).append_right (.of_isLoose_head rfl)
  · exact (clear u).append_right (.of_behind rfl (by decide))

theorem Expr.leads {e : Expr} (h : e.Writable) {x : String} (lead : e.leadingName? = some x) :
    Leads x e.text (e.parseTree .chain).tokens := by
  induction e with
  | name y =>
    obtain rfl := Option.some.inj lead
    exact ⟨[], [], (List.append_nil _).symm, rfl, .nil, apart_nil, clear_nil⟩
  | binary op l r ihl ihr =>
    have left : Leads x l.text (l.parseTree .chain).tokens := ihl h.1 lead
    exact left.spaced (toList_text_binary op l r)
      ((detached_arith op).spaced (detached_parseTree h.2 .atom))
  | _ => exact absurd lead nofun

theorem Condition.leads {c : Condition} (h : c.Writable) {x : String}
    (lead : c.leadingName? = some x) : Leads x c.text (c.parseTree .chain).tokens := by
  induction c with
  | bare e => exact Expr.leads h lead
  | compare e op e' =>
    have left : Leads x e.text (e.parseTree .chain).tokens := Expr.leads h.1 lead
    exact left.spaced (toList_text_compare e op e')
      ((detached_relation op).spaced (Expr.detached_parseTree h.2 .chain))
  | binary op l r ihl ihr =>
    have left : Leads x l.text (l.parseTree .chain).tokens := ihl h.1 lead
    exact left.spaced (toList_text_binary op l r)
      ((detached_connective op).spaced (detached_parseTree h.2 .atom))
  | _ => exact absurd lead nofun

theorem Expr.isWord_of_leadingName? {e : Expr} (h : e.Writable) {x : String}
    (lead : e.leadingName? = some x) : Identifier.IsWord x := by
  induction e with
  | name y =>
    obtain rfl := Option.some.inj lead
    exact h
  | binary op l r ihl ihr => exact ihl h.1 lead
  | _ => exact absurd lead nofun

theorem Condition.isWord_of_leadingName? {c : Condition} (h : c.Writable) {x : String}
    (lead : c.leadingName? = some x) : Identifier.IsWord x := by
  induction c with
  | bare e => exact Expr.isWord_of_leadingName? h lead
  | compare e op e' => exact Expr.isWord_of_leadingName? h.1 lead
  | binary op l r ihl ihr => exact ihl h.1 lead
  | _ => exact absurd lead nofun

/-! ### The first token -/

theorem head?_append_of_mem {α : Type} {xs ys : List α} (nonempty : xs ≠ []) {x : α}
    (h : x ∈ (xs ++ ys).head?) : x ∈ xs.head? := by
  cases xs with
  | nil => exact absurd rfl nonempty
  | cons y ys => exact h

/-- The token is no name, neither as it is nor by what it may open. -/
def Token.Unnamed (t : Token) : Prop := t.name? = none ∧ ¬ t.isOpening

theorem Expr.unnamed_head {e : Expr} (h : e.leadingName? = none) :
    ∀ t ∈ (e.parseTree .chain).tokens.head?, t.Unnamed := by
  induction e with
  | name y => exact absurd h nofun
  | binary op l r ihl ihr =>
    intro t ht
    exact ihl h t (head?_append_of_mem (l.parseTree .chain).tokens_ne_nil ht)
  | _ =>
    intro t ht
    obtain rfl := Option.some.inj ht
    exact ⟨rfl, nofun⟩

theorem Condition.unnamed_head {c : Condition} (h : c.leadingName? = none) :
    ∀ t ∈ (c.parseTree .chain).tokens.head?, t.Unnamed := by
  induction c with
  | bare e => exact Expr.unnamed_head h
  | compare e op e' =>
    intro t ht
    exact Expr.unnamed_head h t (head?_append_of_mem (e.parseTree .chain).tokens_ne_nil ht)
  | binary op l r ihl ihr =>
    intro t ht
    exact ihl h t (head?_append_of_mem (l.parseTree .chain).tokens_ne_nil ht)
  | group c ih =>
    intro t ht
    have first : t ∈ (c.parseTree .chain).grouped.tokens.head? := ht
    rw [CondTree.tokens_grouped] at first
    obtain rfl := Option.some.inj first
    exact ⟨rfl, nofun⟩
  | _ =>
    intro t ht
    obtain rfl := Option.some.inj ht
    exact ⟨rfl, nofun⟩

theorem Identifier.keyword?_of_isOpening {x : String} (h : (token x).isOpening) :
    Token.keyword? x = some (token x) := by
  unfold token at h ⊢
  split at h
  · exact absurd h nofun
  · rename_i bare
    rw [if_neg bare]
    cases found : Token.keyword? x with
    | some t => rfl
    | none =>
      rw [found] at h
      exact absurd h nofun

theorem Condition.exists_of_isOpening {c : Condition} (h : c.Writable) {t : Token}
    (first : t ∈ (c.parseTree .chain).tokens.head?) (opening : t.isOpening) :
    ∃ x, c.leadingName? = some x ∧ Token.keyword? x = some t := by
  cases lead : c.leadingName? with
  | none => exact absurd opening (unnamed_head lead t first).2
  | some x =>
    obtain ⟨_, us, _, tokens, _⟩ := leads h lead
    rw [tokens] at first
    obtain rfl := Option.some.inj first
    exact ⟨x, rfl, Identifier.keyword?_of_isOpening opening⟩

/-! ### Quotes -/

theorem Expr.needsQuotes_of_mem {e : Expr} {l : Layer} {x : String}
    (h : .quoted x ∈ (e.parseTree l).tokens) : Identifier.needsQuotes x := by
  induction e generalizing l with
  | int n => cases l <;> cases List.mem_singleton.mp h
  | name y =>
    have same : .quoted x = Identifier.token y := by cases l <;> exact List.mem_singleton.mp h
    exact (Identifier.needsQuotes_of_token same.symm).1
  | group e ih =>
    refine ih (l := .chain) ?_
    cases l <;> simpa [parseTree, ExprTree.ofPrimary, ExprTree.tokens] using h
  | minus e ih =>
    refine ih (l := .primary) ?_
    cases l <;> simpa [parseTree, ExprTree.ofAtom, ExprTree.tokens] using h
  | binary op left right ihl ihr =>
    have either : .quoted x ∈ (left.parseTree .chain).tokens ∨
        .quoted x ∈ (right.parseTree .atom).tokens := by
      cases l <;> simpa [parseTree, ExprTree.ofChain, ExprTree.tokens] using h
    exact either.elim ihl ihr

/-- Of the names inside a condition just those are between quotes that need them. -/
theorem Condition.needsQuotes_of_mem {c : Condition} {l : Layer} {x : String}
    (h : .quoted x ∈ (c.parseTree l).tokens) : Identifier.needsQuotes x := by
  induction c generalizing l with
  | constant k => cases l <;> cases List.mem_singleton.mp h
  | bare e =>
    refine Expr.needsQuotes_of_mem (e := e) (l := .chain) ?_
    cases l <;> exact h
  | compare e op e' =>
    have either : .quoted x ∈ (e.parseTree .chain).tokens ∨
        .quoted x ∈ (e'.parseTree .chain).tokens := by
      cases l <;> simpa [parseTree, CondTree.ofPrimary, CondTree.tokens] using h
    exact either.elim Expr.needsQuotes_of_mem Expr.needsQuotes_of_mem
  | group c ih =>
    refine ih (l := .chain) ?_
    cases l <;> simpa [parseTree, CondTree.ofPrimary, CondTree.tokens, CondTree.tokens_grouped] using h
  | unary op c ih =>
    refine ih (l := .primary) ?_
    cases l <;> simpa [parseTree, CondTree.ofAtom, CondTree.tokens] using h
  | binary op left right ihl ihr =>
    have either : .quoted x ∈ (left.parseTree .chain).tokens ∨
        .quoted x ∈ (right.parseTree .atom).tokens := by
      cases l <;> simpa [parseTree, CondTree.ofChain, CondTree.tokens] using h
    exact either.elim ihl ihr

/-! ### The condition after a heading -/

/-- The tokens spell the condition of the query, are read as it and do not go on with its heading. Quotes
stand only around names that would not be read as such. -/
structure Query.Resumes (q : Query) (ts : List Token) : Prop where
  spelled : Detached q.conditionText.toList ts
  quotes : ∀ us x vs, ts = us ++ .quoted x :: vs →
    Identifier.needsQuotes x ∨ us = [] ∧ q.readsAsHeading x
  reads : Body.start.Reads ts (·.Ends [] (q.condition.parseTree .chain).cond)
  nonempty : ts ≠ []
  noBracket : ts.head? ≠ some .openBracket
  noModality : q.modality = none → q.bound = none → ∀ k s, ts.head? ≠ some (.modality k s)
  noQuantifier : q.quantifier = none → q.modality = none → q.bound = none →
    ∀ k s, ts.head? ≠ some (.quantifier k s)

theorem reads_parseTree (c : Condition) :
    Body.start.Reads (c.parseTree .chain).tokens (·.Ends [] (c.parseTree .chain).cond) :=
  reads_cond (c.parseTree .chain) (c.settled_parseTree .chain) [] {} rfl

theorem reads_renamed {t t' : Token} {ts : List Token} {x : String} {post : Body → Prop}
    (h : Body.start.Reads (t :: ts) post) (name : t.name? = some x) (name' : t'.name? = some x) :
    Body.start.Reads (t' :: ts) post := by
  intro ls same
  obtain ⟨l, rest, rfl, rfl, sameRest⟩ := List.map_eq_cons_iff.mp same
  obtain ⟨b, fed, hb⟩ := h ({ l with token := t } :: rest) (congrArg (t :: ·) sameRest)
  rw [Body.feed_cons] at fed ⊢
  refine ⟨b, ?_, hb⟩
  rw [← fed]
  simp only [Body.start, Body.opening, Body.step_name _ _ _ name, Body.step_name _ _ _ name']

namespace Query

theorem resumes_bare {q : Query} (h : q.condition.Writable)
    (bare : ∀ x, q.condition.leadingName? = some x → q.readsAsHeading x = false) :
    q.Resumes (q.condition.parseTree .chain).tokens where
  spelled := by
    have text : q.conditionText = q.condition.text := by
      unfold conditionText
      split
      · rename_i x lead
        rw [bare x lead, if_neg (by decide)]
      · rfl
    rw [text]
    exact Condition.detached_parseTree h .chain
  quotes us x vs split := by
    have mem : .quoted x ∈ (q.condition.parseTree .chain).tokens := by simp [split]
    exact .inl (Condition.needsQuotes_of_mem mem)
  reads := reads_parseTree q.condition
  nonempty := (q.condition.parseTree .chain).tokens_ne_nil
  noBracket first := (q.condition.parseTree .chain).openBracket_notMem (List.mem_of_mem_head? first)
  noModality hm hb k s first := by
    obtain ⟨x, lead, found⟩ := Condition.exists_of_isOpening h first rfl
    have clash := bare x lead
    simp [readsAsHeading, found, hm, hb] at clash
  noQuantifier hq hm hb k s first := by
    obtain ⟨x, lead, found⟩ := Condition.exists_of_isOpening h first rfl
    have clash := bare x lead
    simp [readsAsHeading, found, hq, hm, hb] at clash

theorem exists_opening_of_readsAsHeading {q : Query} {x : String} (h : q.readsAsHeading x) :
    ∃ t, Token.keyword? x = some t ∧ t.isOpening := by
  unfold readsAsHeading at h
  split at h
  · exact ⟨_, ‹_›, rfl⟩
  · exact ⟨_, ‹_›, rfl⟩
  · exact absurd h nofun

theorem resumes_quoted {q : Query} (h : q.condition.Writable) {x : String}
    (lead : q.condition.leadingName? = some x) (clash : q.readsAsHeading x) :
    ∃ us, q.Resumes (.quoted x :: us) := by
  obtain ⟨rest, us, text, tokens, spelled, apart, clear⟩ := Condition.leads h lead
  obtain ⟨t, found, opening⟩ := exists_opening_of_readsAsHeading clash
  have word : Identifier.IsWord x := Condition.isWord_of_leadingName? h lead
  -- The text starts with the bare word, so that the quotes take the place of just its characters.
  have bare : Identifier.text x = x := by
    rw [Identifier.text, Identifier.needsQuotes_of_isOpening word found opening]
    rfl
  have condition : q.conditionText.toList = (Identifier.quoted x).toList ++ rest := by
    rw [bare] at text
    simp [conditionText, lead, clash, text, ← String.length_toList]
  refine ⟨us, ?_, ?_, ?_, List.cons_ne_nil _ _, by simp, by simp, by simp⟩
  · rw [condition]
    exact (Detached.quoted word).append spelled (apart _) (clear _)
  · intro vs y ws split
    rcases List.cons_eq_append_iff.mp split with ⟨rfl, here⟩ | ⟨vs', rfl, further⟩
    · obtain rfl := Token.quoted.inj (List.cons.inj here).1
      exact .inr ⟨rfl, clash⟩
    · have mem : .quoted y ∈ (q.condition.parseTree .chain).tokens := by simp [tokens, further]
      exact .inl (Condition.needsQuotes_of_mem mem)
  · have reads := reads_parseTree q.condition
    rw [tokens] at reads
    exact reads_renamed reads (Identifier.name?_token x) rfl

theorem exists_resumes {q : Query} (h : q.condition.Writable) : ∃ ts, q.Resumes ts := by
  by_cases clash : ∃ x, q.condition.leadingName? = some x ∧ q.readsAsHeading x
  · obtain ⟨x, lead, clash⟩ := clash
    obtain ⟨us, resumes⟩ := resumes_quoted h lead clash
    exact ⟨_, resumes⟩
  · simp only [not_exists, not_and, Bool.not_eq_true] at clash
    exact ⟨_, resumes_bare h clash⟩

end Query

end TemporalQuery
