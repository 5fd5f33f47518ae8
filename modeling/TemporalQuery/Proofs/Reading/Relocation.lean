import TemporalQuery.Proofs.Lexing.Output
import TemporalQuery.Proofs.Lexing.Segmentation
import TemporalQuery.Proofs.Reading.FirstFailure
import TemporalQuery.Proofs.Reading.Nesting
import Mathlib.Data.List.Forall2

/-!
# Where tokens stand

Reading carries offsets along and never looks at them: with its lexemes placed elsewhere a text is read
as before, and a failure moves with its lexeme (`Lexed.parse_relocated`). So two texts whose tokens are
the same, in type and value, are read alike (`Query.parse_depends_on_tokens`).
-/

namespace TemporalQuery

/-- The failure with every offset moved as `f` says. -/
def Failure.relocated (f : Nat → Nat) (e : Failure) : Failure := { e with index := f e.index }

/-- The second lexeme holds the token of the first, at the offset that `f` says. -/
def Lexeme.Relocates (f : Nat → Nat) (l m : Lexeme) : Prop := m.token = l.token ∧ m.start = f l.start

namespace Reading

def Opened.relocated {α : Type} (f : Nat → Nat) (g : Opened α) : Opened α :=
  { g with index := f g.index }

def CondPlace.relocated (f : Nat → Nat) (p : CondPlace) : CondPlace :=
  { p with groups := p.groups.map (·.relocated f) }

def ExprPlace.relocated (f : Nat → Nat) (p : ExprPlace) : ExprPlace :=
  { p with cond := p.cond.relocated f, groups := p.groups.map (·.relocated f) }

def Body.relocated (f : Nat → Nat) : Body → Body
  | operand p hole => operand (p.relocated f) hole
  | expr p e => expr (p.relocated f) e
  | cond groups c => cond (groups.map (·.relocated f)) c
  | symbol x index => symbol x (f index)

def State.relocated (f : Nat → Nat) : State → State
  | heading q m => heading q m
  | bound q m start part => bound q m (f start) part
  | misnamed w start => misnamed w (f start)
  | body q m b c => body q m b (c.relocated f)

variable (f : Nat → Nat)

theorem ExprPlace.opensCondition_relocated (p : ExprPlace) (hole : ExprHole) :
    (p.relocated f).opensCondition hole = p.opensCondition hole := by
  simp [opensCondition, relocated]

namespace Body

theorem stepOperand_relocated (p : ExprPlace) (hole : ExprHole) (t : Token) (index : Nat) :
    stepOperand (p.relocated f) hole t (f index) = (stepOperand p hole t index).map (relocated f) := by
  cases t with
  | openParen =>
    simp only [stepOperand, ExprPlace.opensCondition_relocated]
    split
    · rfl
    · rfl
  | modality m x =>
    simp only [stepOperand]
    split
    · rfl
    · rfl
  | constant k s =>
    simp only [stepOperand, ExprPlace.opensCondition_relocated]
    split
    · rfl
    · rfl
  | unary op s =>
    have hole_eq : (p.relocated f).cond.hole = p.cond.hole := rfl
    simp only [stepOperand, ExprPlace.opensCondition_relocated, hole_eq]
    split
    · rfl
    · rfl
  | arith op =>
    cases op with
    | subtract =>
      simp only [stepOperand]
      split
      · rfl
      · rfl
    | _ => rfl
  | _ => rfl

theorem stepExpr_relocated (p : ExprPlace) (e : Expr) (t : Token) :
    stepExpr (p.relocated f) e t = (stepExpr p e t).map (relocated f) := by
  obtain ⟨⟨groups, hole⟩, compared, inner⟩ := p
  cases t with
  | relation op s =>
    cases inner with
    | nil => cases compared <;> rfl
    | cons g gs => rfl
  | connective op s => cases inner <;> rfl
  | closeParen =>
    cases inner with
    | cons g gs => rfl
    | nil =>
      cases groups with
      | nil => rfl
      | cons g gs =>
        -- Both sides ask the same of the condition's hole and of what is compared.
        cases bare : decide (hole = {} ∧ compared = none) with
        | true =>
          simp only [stepExpr, ExprPlace.relocated, CondPlace.relocated, List.map_nil, List.map_cons,
            ExprPlace.isBare, bare]
          rfl
        | false =>
          simp only [stepExpr, ExprPlace.relocated, CondPlace.relocated, List.map_nil, List.map_cons,
            ExprPlace.isBare, bare]
          rfl
  | _ => rfl

theorem stepCond_relocated (groups : List (Opened CondHole)) (c : Condition) (t : Token) :
    stepCond (groups.map (·.relocated f)) c t = (stepCond groups c t).map (relocated f) := by
  cases t with
  | closeParen => cases groups <;> rfl
  | _ => rfl

theorem step_relocated (b : Body) (t : Token) (index : Nat) :
    (b.relocated f).step t (f index) = (b.step t index).map (relocated f) := by
  cases b with
  | operand p hole => exact stepOperand_relocated f p hole t index
  | expr p e => exact stepExpr_relocated f p e t
  | cond groups c => exact stepCond_relocated f groups c t
  | symbol x i => rfl

theorem finish?_relocated (b : Body) : (b.relocated f).finish? = b.finish? := by
  cases b with
  | expr p e =>
    simp only [relocated, finish?, ExprPlace.relocated, CondPlace.relocated, List.map_eq_nil_iff]
    rfl
  | cond groups c => cases groups <;> rfl
  | _ => rfl

theorem opened_relocated (b : Body) : (b.relocated f).opened = b.opened.map f := by
  cases b with
  | operand p hole | expr p e =>
    simp [opened, relocated, ExprPlace.relocated, CondPlace.relocated, Opened.relocated,
      Function.comp_def]
  | cond groups c => simp [opened, relocated, Opened.relocated, Function.comp_def]
  | symbol x i => rfl

end Body

namespace State

theorem enter_relocated (q : Option Quantifier) (m : Option Modality) (t : Token) (index : Nat) :
    enter q m t (f index) = (enter q m t index).map (relocated f) := by
  have stepped : Body.start.step t (f index) = (Body.start.step t index).map (Body.relocated f) :=
    Body.step_relocated f Body.start t index
  rw [enter, enter, stepped, Option.map_map, Option.map_map]
  rfl

theorem advance_relocated (s : State) (t : Token) (index : Nat) :
    (s.relocated f).advance t (f index) = (s.advance t index).map (relocated f) := by
  cases s with
  | heading q m =>
    simp only [relocated, advance]
    split
    · split
      · rfl
      · exact enter_relocated f q m _ index
    · split
      · rfl
      · exact enter_relocated f q m _ index
    · rfl
    · exact enter_relocated f q m t index
  | bound q m start part =>
    simp only [relocated, advance]
    split
    · rfl
    · split
      · rfl
      · rfl
    · rw [Option.map_map]
      rfl
  | misnamed w start => rfl
  | body q m b c =>
    simp only [relocated, advance]
    rw [Body.step_relocated, Option.map_map, Option.map_map]
    rfl

theorem finish?_relocated (s : State) : (s.relocated f).finish? = s.finish? := by
  cases s with
  | body q m b c => simp only [relocated, finish?, Body.finish?_relocated]
  | _ => rfl

theorem pending?_relocated (s : State) :
    (s.relocated f).pending? = s.pending?.map fun r => (r.1, f r.2) := by
  cases s with
  | body q m b c => cases c <;> rfl
  | _ => rfl

theorem opened_relocated (s : State) : (s.relocated f).opened = s.opened.map f := by
  cases s with
  | body q m b c => exact Body.opened_relocated f c
  | _ => rfl

/-- Where nothing was misread before, the token itself is refused. -/
theorem refusal_of_settled {s : State} (settled : s.pending? = none)
    (noBound : ∀ w start, s ≠ misnamed w start) (t : Token) (index : Nat) :
    s.refusal t index = ⟨if s.finish?.isSome then .trailing t else .unexpected t, index⟩ := by
  cases s with
  | misnamed w start => exact absurd rfl (noBound w start)
  | body q m b c =>
    cases c with
    | symbol x at_ => cases settled
    | _ => rfl
  | _ => rfl

theorem refusal_relocated (s : State) (t : Token) (index : Nat) :
    (s.relocated f).refusal t (f index) = (s.refusal t index).relocated f := by
  by_cases misread : ∃ w start, s = misnamed w start
  · obtain ⟨w, start, rfl⟩ := misread
    simp only [relocated, refusal, Body.isSome_step_start]
    split
    · rfl
    · rfl
  · have noBound : ∀ w start, s ≠ misnamed w start := fun w start same => misread ⟨w, start, same⟩
    have noBound' : ∀ w start, s.relocated f ≠ misnamed w start := by
      cases s with
      | misnamed w start => exact absurd rfl (noBound w start)
      | _ => simp [relocated]
    have moved := pending?_relocated f s
    cases pending : s.pending? with
    | some r =>
      rw [pending] at moved
      rw [refusal_of_pending pending, refusal_of_pending moved]
      split
      · rfl
      · rfl
    | none =>
      rw [pending] at moved
      rw [refusal_of_settled pending noBound, refusal_of_settled moved noBound', finish?_relocated]
      rfl

theorem endFailure_relocated (s : State) (length : Nat) :
    (s.relocated f).endFailure (f length) = (s.endFailure length).relocated f := by
  have moved := pending?_relocated f s
  cases pending : s.pending? with
  | some r =>
    rw [pending] at moved
    rw [endFailure_of_pending pending, endFailure_of_pending moved]
    rfl
  | none =>
    rw [pending] at moved
    rw [endFailure_eq pending, endFailure_eq moved, opened_relocated, List.head?_map]
    cases s.opened.head? <;> rfl

theorem finish_relocated (s : State) (length : Nat) :
    (s.relocated f).finish (f length) = (s.finish length).mapError (Failure.relocated f) := by
  rw [finish, finish, finish?_relocated, endFailure_relocated]
  cases s.finish? <;> rfl

variable {f} {ls ms : List Lexeme}

theorem run_relocated (s : State) (h : List.Forall₂ (Lexeme.Relocates f) ls ms) :
    (s.relocated f).run ms = ((s.run ls).map (relocated f)).mapError (Failure.relocated f) := by
  induction h generalizing s with
  | nil => rfl
  | @cons l m ls ms place _ ih =>
    obtain ⟨token, start⟩ := place
    have advanced : (s.relocated f).advance m.token m.start =
        (s.advance l.token l.start).map (relocated f) := by
      rw [token, start]
      exact advance_relocated f s l.token l.start
    cases next : s.advance l.token l.start with
    | none =>
      rw [next] at advanced
      rw [run_cons_refused next, run_cons_refused advanced, token, start, refusal_relocated]
      rfl
    | some s' =>
      rw [next] at advanced
      rw [run_cons next, run_cons advanced]
      exact ih s'

end State

end Reading

open Reading

/-- What is read does not depend on where the lexemes stand. -/
theorem Lexed.parse_relocated {f : Nat → Nat} {ls ms : List Lexeme}
    (h : List.Forall₂ (Lexeme.Relocates f) ls ms) (length : Nat) :
    Lexed.parse ⟨ms, none⟩ (f length) = (Lexed.parse ⟨ls, none⟩ length).mapError (Failure.relocated f) := by
  have ran : State.start.run ms = _ := State.run_relocated State.start h
  unfold parse
  dsimp only
  rw [ran]
  cases State.start.run ls with
  | error e => rfl
  | ok s => exact State.finish_relocated f s length

/-! ### Ordinals -/

/-- The tokens as lexemes that stand at their ordinals. -/
def Lexeme.numbered (ts : List Token) : List Lexeme :=
  ts.zipIdx.map fun r => ⟨r.1, 0, r.2, 0⟩

/-- Where the lexeme with the ordinal `k` stands; the end of the text if there is none. -/
def Lexed.offset (lexed : Lexed) (length k : Nat) : Nat :=
  (lexed.lexemes[k]?.map (·.start)).getD length

theorem Lexed.forall₂_numbered (lexed : Lexed) (length : Nat) :
    List.Forall₂ (Lexeme.Relocates (lexed.offset length)) (Lexeme.numbered lexed.tokens) lexed.lexemes := by
  refine List.forall₂_iff_get.mpr ⟨?_, fun i h h' => ?_⟩
  · simp [Lexeme.numbered, tokens]
  · have found : lexed.lexemes[i]? = some lexed.lexemes[i] := List.getElem?_eq_getElem h'
    simp [Lexeme.Relocates, Lexeme.numbered, tokens, offset, found]

theorem Lexed.parse_eq_numbered {lexed : Lexed} (clean : lexed.fault = none) (length : Nat) :
    lexed.parse length =
      (Lexed.parse ⟨Lexeme.numbered lexed.tokens, none⟩ lexed.lexemes.length).mapError
        (Failure.relocated (lexed.offset length)) := by
  obtain ⟨lexemes, fault⟩ := lexed
  obtain rfl : fault = none := clean
  have ended : offset ⟨lexemes, none⟩ length lexemes.length = length := by simp [offset]
  rw [← parse_relocated (forall₂_numbered ⟨lexemes, none⟩ length), ended]

/-! ### Types and values -/

/-- What a token says beside its type: an integer, a name, or the spelling. -/
def Token.value : Token → Nat ⊕ String
  | int n => .inl n
  | t => .inr t.text

/-- The type and the value of the token. -/
def Token.shown (t : Token) : String × (Nat ⊕ String) := (t.label, t.value)

/-- For each type what a token of that type is, whatever it says. -/
def Token.makers : List (String × (String → Token)) :=
  [("IDENT", ident), ("QUOTED", quoted),
    ("ALWAYS", quantifier .universal), ("EXISTS", quantifier .existential),
    ("PROBABILITY", fun s => quantifier (if fold s = "pr" then .probabilityR else .probability) s),
    ("FINALLY", modality .eventually), ("GLOBALLY", modality .globally),
    ("TRUE", constant .truth), ("FALSE", constant .falsity), ("DEADLOCK", constant .deadlock),
    ("NOT", unary .negation), ("NEXT", unary .nextState),
    ("AND", connective .conjunction), ("OR", connective .disjunction),
    ("UNTIL", connective .strongUntil), ("IMPLIES", connective .implication),
    ("EQ", relation .eq), ("NE", relation .ne), ("LT", relation .lt), ("LE", relation .le),
    ("GT", relation .gt), ("GE", relation .ge),
    ("PLUS", fun _ => arith .add), ("MINUS", fun _ => arith .subtract),
    ("TIMES", fun _ => arith .multiply), ("MOD", fun _ => arith .modulo), ("POW", fun _ => arith .power),
    ("LPAREN", fun _ => openParen), ("RPAREN", fun _ => closeParen),
    ("LBRACKET", fun _ => openBracket), ("RBRACKET", fun _ => closeBracket), ("HASH", fun _ => hash)]

/-- The token with the type and the value. -/
def Token.ofShown : String × (Nat ⊕ String) → Option Token
  | (_, .inl n) => some (int n)
  | (label, .inr s) => (makers.lookup label).map (· s)

theorem Token.ofShown_shown {t : Token} (h : t.Faithful) : ofShown t.shown = some t := by
  cases t with
  | quantifier k s =>
    replace h : fold s = fold k.symbol := h
    cases k with
    | universal | existential => rfl
    | probability =>
      have short : fold s ≠ "pr" := by
        rw [h]
        decide
      exact congrArg (fun k => some (quantifier k s)) (if_neg short)
    | probabilityR =>
      have long : fold s = "pr" := h.trans (by decide)
      exact congrArg (fun k => some (quantifier k s)) (if_pos long)
  | modality m s => cases m <;> rfl
  | constant k s => cases k <;> rfl
  | unary op s => cases op <;> rfl
  | connective op s => cases op <;> rfl
  | relation op s => cases op <;> rfl
  | arith op => cases op <;> rfl
  | _ => rfl

/-- Types and values say which tokens they are. -/
theorem Token.eq_of_map_shown {ts ts' : List Token} (faithful : ∀ t ∈ ts, t.Faithful)
    (faithful' : ∀ t ∈ ts', t.Faithful) (same : ts.map shown = ts'.map shown) : ts = ts' := by
  have known {us : List Token} (h : ∀ t ∈ us, t.Faithful) :
      (us.map shown).map ofShown = us.map some := by
    rw [List.map_map]
    exact List.map_congr_left fun t mem => ofShown_shown (h t mem)
  have both : ts.map some = ts'.map some := by rw [← known faithful, same, known faithful']
  exact List.map_injective_iff.mpr (fun _ _ => Option.some.inj) both

/-! ### Texts -/

theorem isBlank_of_isSpace {c : Char} (h : IsSpace c) : Text.isBlank c := by
  rcases h with rfl | rfl | rfl | rfl <;> decide

theorem isBlank_of_tokens_eq_nil {text : String} (clean : (lex text).fault = none)
    (none : (lex text).tokens = []) : text.toList.all Text.isBlank := by
  have segments : (lex text).Segments text.toList 0 := Lexeme.segments_lexFrom rfl
  have noLexeme : (lex text).lexemes = [] := List.map_eq_nil_iff.mp none
  rw [List.all_eq_true]
  intro c mem
  obtain ⟨i, found⟩ := List.mem_iff_getElem?.mp mem
  exact isBlank_of_isSpace (segments.between clean i c (Nat.zero_le i) found (by simp [noLexeme]))

/-- Reads tokens alone; failures stand at ordinals. -/
def Query.ofTokens (ts : List Token) : Except Failure Query :=
  if ts = [] then .error ⟨.emptyQuery, 0⟩ else Lexed.parse ⟨Lexeme.numbered ts, none⟩ ts.length

theorem Query.parse_eq_ofTokens {text : String} (clean : (lex text).fault = none) :
    parse text =
      (ofTokens (lex text).tokens).mapError (Failure.relocated ((lex text).offset text.length)) := by
  by_cases none : (lex text).tokens = []
  · have blank := isBlank_of_tokens_eq_nil clean none
    have noLexeme : (lex text).lexemes = [] := List.map_eq_nil_iff.mp none
    have ended : (lex text).offset text.length 0 = text.length := by simp [Lexed.offset, noLexeme]
    rw [parse, if_pos blank, ofTokens, if_pos none]
    simp [Except.mapError, Failure.relocated, ended]
  · have count : (lex text).tokens.length = (lex text).lexemes.length := List.length_map _
    rw [parse_of_tokens none, Lexed.parse_eq_numbered clean, ofTokens, if_neg none, count]

/-- Two texts without fault whose tokens have the same types and values are read as the same query, or
fail with the same exception at the same token or both at the end. -/
theorem Query.parse_depends_on_tokens {text text' : String} (clean : (lex text).fault = none)
    (clean' : (lex text').fault = none)
    (same : (lex text).tokens.map Token.shown = (lex text').tokens.map Token.shown) :
    (∃ q, parse text = .ok q ∧ parse text' = .ok q) ∨
    ∃ f f', parse text = .error f ∧ parse text' = .error f' ∧
      (f.report text).kind = (f'.report text').kind ∧
      (f.report text).message = (f'.report text').message ∧
      (f.index = text.length ∧ f'.index = text'.length ∨
        ∃ (k : Nat) (l l' : Lexeme), (lex text).lexemes[k]? = some l ∧ (lex text').lexemes[k]? = some l' ∧
          f.index = l.start ∧ f'.index = l'.start) := by
  have tokens : (lex text).tokens = (lex text').tokens :=
    Token.eq_of_map_shown Lexeme.faithful_of_mem_lexFrom Lexeme.faithful_of_mem_lexFrom same
  have read := parse_eq_ofTokens clean
  have read' := parse_eq_ofTokens clean'
  rw [← tokens] at read'
  cases result : ofTokens (lex text).tokens with
  | ok q =>
    rw [result] at read read'
    exact .inl ⟨q, read, read'⟩
  | error e =>
    rw [result] at read read'
    refine .inr ⟨_, _, read, read', rfl, rfl, ?_⟩
    have counts : (lex text).lexemes.length = (lex text').lexemes.length := by
      simpa [Lexed.tokens] using congrArg List.length tokens
    by_cases within : e.index < (lex text).lexemes.length
    · have found := List.getElem?_eq_getElem within
      have found' := List.getElem?_eq_getElem (counts ▸ within)
      exact .inr ⟨e.index, _, _, found, found', by simp [Failure.relocated, Lexed.offset, found],
        by simp [Failure.relocated, Lexed.offset, found']⟩
    · have missing := List.getElem?_eq_none (Nat.le_of_not_lt within)
      have missing' := List.getElem?_eq_none (counts ▸ Nat.le_of_not_lt within)
      exact .inl ⟨by simp [Failure.relocated, Lexed.offset, missing],
        by simp [Failure.relocated, Lexed.offset, missing']⟩

def Query.denseText : String := "A F[t<=5](\"x\"=1&y"

/-- The same tokens on two lines, with other quotes and with leading zeros. -/
def Query.sparseText : String := "A  F [t <= 05]\n( 'x' = 001 & y"

/-- The parenthesis that both texts leave open is told at its place in each. -/
theorem Query.sparseText_read_alike :
    ((lex denseText).fault = none ∧ (lex sparseText).fault = none ∧
      (lex denseText).tokens.map Token.shown = (lex sparseText).tokens.map Token.shown) ∧
    parse denseText = .error ⟨.unclosedParen, 9⟩ ∧ parse sparseText = .error ⟨.unclosedParen, 15⟩ ∧
      ∃ (k : Nat) (l l' : Lexeme), (lex denseText).lexemes[k]? = some l ∧
        (lex sparseText).lexemes[k]? = some l' ∧ 9 = l.start ∧ 15 = l'.start := by
  have clean : (lex denseText).fault = none := by decide +kernel
  have clean' : (lex sparseText).fault = none := by decide +kernel
  have same : (lex denseText).tokens.map Token.shown = (lex sparseText).tokens.map Token.shown := by
    decide +kernel
  have failed : parse denseText = .error ⟨.unclosedParen, 9⟩ := by decide +kernel
  have failed' : parse sparseText = .error ⟨.unclosedParen, 15⟩ := by decide +kernel
  refine ⟨⟨clean, clean', same⟩, failed, failed', ?_⟩
  rcases parse_depends_on_tokens clean clean' same with ⟨q, read, _⟩ | ⟨f, f', read, read', _, _, place⟩
  · cases failed.symm.trans read
  · obtain rfl := Except.error.inj (failed.symm.trans read)
    obtain rfl := Except.error.inj (failed'.symm.trans read')
    rcases place with ⟨ended, _⟩ | found
    · exact absurd ended (by decide +kernel)
    · exact found

end TemporalQuery
