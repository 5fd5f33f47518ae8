import TemporalQuery.Proofs.Lexing.Output
import TemporalQuery.Proofs.Reading.Soundness

/-!
# Going on to a query

Whatever was read of a condition goes on to a whole one, unless a modality symbol stands where a name is
due (`Body.reads_completion`): a number is put where an operand is due, and each parenthesis is closed.
After a heading and a run bound, a number will do (`State.reads_number`).
-/

namespace TemporalQuery.Reading

namespace Body

/-- How many parentheses are open. -/
def openCount : Body → Nat
  | operand p _ | expr p _ => p.groups.length + p.cond.groups.length
  | cond groups _ => groups.length
  | symbol .. => 0

/-- No operand is due. -/
def Closable : Body → Prop
  | expr .. | cond .. => True
  | _ => False

theorem Closable.finish? {b : Body} (closable : b.Closable) (closed : b.openCount = 0) :
    b.finish?.isSome := by
  cases b with
  | expr p e =>
    obtain ⟨inner, outer⟩ := Nat.add_eq_zero_iff.mp closed
    rw [List.length_eq_zero_iff] at inner outer
    simp [Body.finish?, inner, outer]
  | cond groups c =>
    obtain rfl := List.length_eq_zero_iff.mp closed
    rfl
  | _ => exact closable.elim

theorem Closable.step_closeParen {b : Body} (closable : b.Closable) {n : Nat}
    (opened : b.openCount = n + 1) (index : Nat) :
    ∃ b', b.step .closeParen index = some b' ∧ b'.Closable ∧ b'.openCount = n := by
  cases b with
  | expr p e =>
    obtain ⟨⟨outer, hole⟩, compared, inner⟩ := p
    cases inner with
    | cons g gs =>
      refine ⟨_, rfl, trivial, ?_⟩
      simp only [openCount, List.length_cons] at opened ⊢
      omega
    | nil =>
      cases outer with
      | nil => simp [openCount] at opened
      | cons g gs =>
        have count : gs.length = n := by simpa [openCount] using opened
        by_cases bare : ExprPlace.isBare ⟨⟨g :: gs, hole⟩, compared, []⟩
        · exact ⟨_, if_pos bare, trivial, by simp [openCount, count]⟩
        · exact ⟨_, if_neg bare, trivial, count⟩
  | cond groups c =>
    cases groups with
    | nil => simp [openCount] at opened
    | cons g gs => exact ⟨_, rfl, trivial, by simpa [openCount] using opened⟩
  | _ => exact closable.elim

theorem Closable.reads_closing {b : Body} (closable : b.Closable) {n : Nat} (opened : b.openCount = n) :
    b.Reads (List.replicate n .closeParen) (·.finish?.isSome) := by
  induction n generalizing b with
  | zero => exact .nil (closable.finish? opened)
  | succ n ih =>
    refine .cons fun index => ?_
    obtain ⟨b', stepped, closable', opened'⟩ := closable.step_closeParen opened index
    exact ⟨b', stepped, ih closable' opened'⟩

/-- Tokens that go on to a whole condition. -/
def completion (b : Body) : List Token :=
  let closing := List.replicate b.openCount .closeParen
  match b with
  | operand .. => .int 0 :: closing
  | _ => closing

theorem reads_completion {b : Body} (noSymbol : ∀ s i, b ≠ symbol s i) :
    b.Reads b.completion (·.finish?.isSome) := by
  cases b with
  | operand p hole =>
    have closable : (expr p (hole.fill (.int 0))).Closable := trivial
    exact .cons fun index => ⟨_, rfl, closable.reads_closing rfl⟩
  | expr p e => exact Closable.reads_closing (b := expr p e) trivial rfl
  | cond groups c => exact Closable.reads_closing (b := cond groups c) trivial rfl
  | symbol s i => exact absurd rfl (noSymbol s i)

end Body

/-! ### Queries -/

/-- The tokens that the rest of a run bound may be, and a number. -/
def BoundPart.completion : BoundPart → List Token
  | opened => [.ident "t", .relation .le "<=", .int 0, .closeBracket, .int 0]
  | lettered _ => [.relation .le "<=", .int 0, .closeBracket, .int 0]
  | related _ => [.int 0, .closeBracket, .int 0]
  | measured .. => [.closeBracket, .int 0]

/-- A run bound over the letter, whatever it is. -/
def BoundLetter.tokens (l : BoundLetter) (spelling : String) (n : Nat) : List Token :=
  [.openBracket, l.token, .relation .le spelling, .int n, .closeBracket]

theorem BoundPart.Taken.completed {part : BoundPart} {ts : List Token} (h : part.Taken ts) :
    ∃ l s n, ts ++ part.completion = BoundLetter.tokens l s n ++ [.int 0] := by
  cases part with
  | opened =>
    obtain rfl := h
    exact ⟨.word "t", _, _, rfl⟩
  | lettered l =>
    obtain rfl := h
    exact ⟨l, _, _, rfl⟩
  | related l =>
    obtain ⟨s, rfl⟩ := h
    exact ⟨l, s, _, rfl⟩
  | measured l n =>
    obtain ⟨s, rfl⟩ := h
    exact ⟨l, s, n, rfl⟩

theorem eq_tokens_of_boundSpan {rest ts : List Token} {b : Option Bound} (h : BoundSpan rest ts b) :
    ts = [] ∨ ∃ l s n, ts = BoundLetter.tokens l s n := by
  cases h with
  | time s n => exact .inr ⟨.word "t", s, n, rfl⟩
  | steps s n => exact .inr ⟨.hash, s, n, rfl⟩
  | absent => exact .inl rfl

namespace State

/-- Tokens that go on to a whole query, up to the letter of a run bound. -/
def completion : State → List Token
  | heading .. | misnamed .. => [.int 0]
  | bound _ _ _ part => part.completion
  | body _ _ _ b => b.completion

theorem spelled_letter : (Token.ident "t").Spelled := ⟨['t'], Lexeme.spells_literal rfl rfl⟩

theorem spelled_completion (s : State) : ∀ t ∈ s.completion, t.Spelled := by
  have number : (Token.int 0).Spelled := ⟨_, Lexeme.spells_number (Nat.zero_le _)⟩
  have relation : (Token.relation .le "<=").Spelled := ⟨['<', '='], Lexeme.spells_symbol rfl⟩
  have bracket : Token.closeBracket.Spelled := ⟨[']'], Lexeme.spells_symbol rfl⟩
  have paren : ∀ n, ∀ t ∈ List.replicate n Token.closeParen, t.Spelled := by
    intro n t mem
    obtain rfl := List.eq_of_mem_replicate mem
    exact ⟨[')'], Lexeme.spells_symbol rfl⟩
  cases s with
  | heading q m => simp [completion, number]
  | misnamed w start => simp [completion, number]
  | bound q m start part =>
    cases part <;> simp [completion, BoundPart.completion, number, spelled_letter, relation, bracket]
  | body q m b c =>
    cases c with
    | operand p hole => exact List.forall_mem_cons.mpr ⟨number, paren _⟩
    | _ => exact paren _

/-- A number is a condition after any heading. -/
theorem reads_number {q : Option Quantifier} {m : Option Modality} {b : Option Bound}
    {vs : List Token} (bound : BoundSpan [.int 0] vs b) :
    (heading q m).Reads (vs ++ [.int 0]) (·.finish?.isSome) := by
  have number : Body.start.Reads [.int 0] (·.finish?.isSome) :=
    Body.reads_completion (b := Body.start) nofun
  have enters : Enters q m (vs ++ [.int 0]) := by cases bound <;> exact ⟨by simp, by simp⟩
  intro ls same
  obtain ⟨s, ran, c, rfl, finished⟩ := reads_boundSpan enters bound (List.cons_ne_nil _ _) number ls same
  exact ⟨_, ran, by simpa [finish?] using finished⟩

/-- The tokens read and the tokens they go on with make a query. -/
theorem Taken.derivation_of_reads {s : State} {ts us : List Token} (h : s.Taken ts)
    (reads : s.Reads us (·.finish?.isSome)) : Nonempty (Derivation (ts ++ us)) := by
  have spelled := Lexeme.map_token_ofToken us
  obtain ⟨s', ran, finished⟩ := reads _ spelled
  obtain ⟨r, finished⟩ := Option.isSome_iff_exists.mp finished
  have taken := taken_run h ran
  rw [spelled] at taken
  obtain ⟨d, _⟩ := taken.derivation finished
  exact ⟨d⟩

end State

end TemporalQuery.Reading
