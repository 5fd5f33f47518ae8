import TemporalQuery.Proofs.Lexing.Cut
import TemporalQuery.Proofs.Reading.Refusal

/-!
# The first failure decides

A failure about a token depends on the text up to that token (`Query.first_failure_decides`). A symbol
for a name and the letter of a run bound are told by the token behind, which has to be one that could
follow; else that one is told instead (`Query.first_failure_waits`).
-/

namespace TemporalQuery

open Reading

namespace Cause

/-- The causes that are about a token. -/
def isOfToken : Cause → Bool
  | unexpected _ | symbolForName _ | boundLetter _ | trailing _ => true
  | _ => false

/-- The causes that are about the end of the text. -/
def isEnd : Cause → Bool
  | unexpectedEnd | unclosedParen => true
  | _ => false

theorem not_isEnd_of_isOfToken {c : Cause} (h : c.isOfToken) : ¬ c.isEnd := by
  cases c with
  | unexpectedEnd | unclosedParen => cases h
  | _ => exact Bool.false_ne_true

/-- Whether a failure is told in front of what stands behind its token. -/
def toldBefore (c : Cause) (behind : Lexed) : Bool :=
  match c, behind.lexemes with
  | symbolForName _, [] => behind.fault.isNone
  | symbolForName _, l :: _ => State.followsName l.token
  | boundLetter _, [] => false
  | boundLetter _, l :: _ => l.token.startsCondition
  | _, _ => true

end Cause

/-- The failure of a text of which nothing can be read. -/
def Lexed.refusal (lexed : Lexed) (length : Nat) : Failure :=
  match lexed.lexemes, lexed.fault with
  | l :: _, _ => ⟨.unexpected l.token, l.start⟩
  | [], some (fault, index) => ⟨.lexical fault, index⟩
  | [], none => ⟨.unexpectedEnd, length⟩

namespace Failure

def moved (offset : Nat) (f : Failure) : Failure := { f with index := offset + f.index }

/-- The lexemes end with the token that the failure is about, the one that closes it in case of a run
bound. -/
def About (f : Failure) (ls : List Lexeme) : Prop :=
  match f.cause with
  | .boundLetter w => State.MisnamesBound ls w f.index
  | _ => ∃ l ∈ ls.getLast?, l.start = f.index

end Failure

/-- The lexemes decide the failure, at once or together with what stands behind them. -/
inductive Decides (ls : List Lexeme) : Failure → Prop
  | refused {f : Failure} (failed : State.start.run ls = .error f)
      (told : ∀ behind, f.cause.toldBefore behind) : Decides ls f
  | symbolForName {s : State} {x : String} {at_ : Nat} (ran : State.start.run ls = .ok s)
      (pending : s.pending? = some (x, at_)) : Decides ls ⟨.symbolForName x, at_⟩
  | boundLetter {w : String} {index : Nat} (misnamed : State.MisnamesBound ls w index) :
      Decides ls ⟨.boundLetter w, index⟩

theorem Reading.State.isEnd_endFailure {s : State} (settled : s.pending? = none) (length : Nat) :
    (s.endFailure length).cause.isEnd := by
  rcases s.endFailure_cause settled length with cause | cause <;> rw [cause] <;> rfl

theorem Reading.State.refusal_of_pending {s : State} {x : String} {at_ : Nat}
    (pending : s.pending? = some (x, at_)) (t : Token) (index : Nat) :
    s.refusal t index = if followsName t then ⟨.symbolForName x, at_⟩ else ⟨.unexpected t, index⟩ := by
  unfold pending? at pending
  split at pending
  · obtain ⟨rfl, rfl⟩ := Prod.mk.inj (Option.some.inj pending)
    rfl
  · cases pending

section

variable {lexed : Lexed} {ls ms us vs : List Lexeme} {l : Lexeme} {f : Failure} {text : String}

/-- What is behind the lexemes tells their failure, or is refused itself. -/
theorem Decides.parse_eq (h : Decides ls f) (split : lexed.lexemes = ls ++ ms) (length : Nat) :
    lexed.parse length =
      .error (if f.cause.toldBefore ⟨ms, lexed.fault⟩ then f
        else Lexed.refusal ⟨ms, lexed.fault⟩ length) := by
  cases h with
  | refused failed told =>
    rw [Lexed.parse, split, State.run_append_error failed ms, if_pos (told _)]
  | @symbolForName s x at_ ran pending =>
    -- The symbol was read, but nothing goes on from it: whatever is behind it ends the run.
    have waiting := Option.isSome_of_eq_some pending
    rw [Lexed.parse, split, State.run_append ran]
    cases ms with
    | nil =>
      cases lexed.fault with
      | none =>
        show s.finish length = _
        rw [State.finish, State.finish?_of_pending waiting, State.endFailure_of_pending pending]
        rfl
      | some r => rfl
    | cons m ms =>
      rw [State.run_cons_refused (State.advance_of_pending waiting _ _),
        State.refusal_of_pending pending]
      rfl
  | @boundLetter w index misnamed =>
    rw [Lexed.parse, split, State.run_append misnamed.run]
    cases ms with
    | nil =>
      cases lexed.fault with
      | none => rfl
      | some r => rfl
    | cons m ms =>
      rw [State.run_cons_refused rfl]
      simp only [State.refusal, Body.isSome_step_start]
      rfl

theorem Cause.toldBefore_moved (c : Cause) (lexed : Lexed) (lines : Int) (offset : Nat) :
    c.toldBefore (lexed.moved lines offset) = c.toldBefore lexed := by
  obtain ⟨lexemes, fault⟩ := lexed
  cases c with
  | symbolForName x =>
    cases lexemes with
    | nil => cases fault <;> rfl
    | cons l ls => rfl
  | boundLetter w => cases lexemes <;> rfl
  | _ => rfl

theorem Cause.toldBefore_cons (c : Cause) (l : Lexeme) (ls : List Lexeme)
    (r r' : Option (LexFault × Nat)) : c.toldBefore ⟨l :: ls, r⟩ = c.toldBefore ⟨l :: ls, r'⟩ := by
  cases c <;> rfl

theorem Lexed.refusal_moved (lexed : Lexed) (lines : Int) (offset length : Nat) :
    (lexed.moved lines offset).refusal (offset + length) = (lexed.refusal length).moved offset := by
  obtain ⟨lexemes, fault⟩ := lexed
  cases lexemes with
  | nil =>
    cases fault with
    | none => rfl
    | some r => simp [moved, refusal, Failure.moved, Nat.add_comm]
  | cons l ls => simp [moved, refusal, Failure.moved, Lexeme.moved, Nat.add_comm]

/-! ### Positions -/

theorem Failure.report_append (inside : f.index ≤ text.length) (w : String) :
    f.report (text ++ w) = f.report text := by
  have inside' : f.index ≤ text.toList.length := by rwa [String.length_toList]
  rw [report, report, QueryError.ofIndex, QueryError.ofIndex, position, position, String.toList_append,
    Int.toNat_natCast, List.take_append_of_le_length inside']

theorem Failure.report_before {n : Nat} (inside : f.index ≤ n) :
    f.report (Text.before text n) = f.report text := by
  rw [report, report, QueryError.ofIndex, QueryError.ofIndex, position, position, Text.toList_before,
    Int.toNat_natCast, List.take_take, Nat.min_eq_left inside]

theorem Failure.About.index_lt (about : f.About (us ++ [l])) (split : (lex text).lexemes = us ++ l :: vs) :
    f.index < l.stop := by
  obtain ⟨before, nonempty, _⟩ := (ordered_lex text).around split
  have found : ∃ m ∈ us ++ [l], m.start = f.index := by
    unfold About at about
    split at about
    · obtain ⟨_, _, hs, o, os, _, _, same, _, start, _⟩ := about
      exact ⟨o, by simp [same], start⟩
    · obtain ⟨m, last, start⟩ := about
      exact ⟨m, List.mem_of_getLast? last, start⟩
  obtain ⟨m, mem, start⟩ := found
  rw [← start]
  rcases List.mem_append.mp mem with front | here
  · have inside := (ordered_lex text).within m (split ▸ List.mem_append_left _ front)
    have earlier := before m front
    omega
  · rwa [List.mem_singleton.mp here]

/-! ### Texts -/

theorem Query.exists_decides_of_parse (h : parse text = .error f) (ofToken : f.cause.isOfToken) :
    ∃ us l vs, (lex text).lexemes = us ++ l :: vs ∧ f.About (us ++ [l]) ∧ Decides (us ++ [l]) f := by
  have located {ls vs : List Lexeme} {s : State} {x : String} {at_ : Nat}
      (split : (lex text).lexemes = ls ++ vs) (ran : State.start.run ls = .ok s)
      (pending : s.pending? = some (x, at_)) :
      ∃ us l vs, (lex text).lexemes = us ++ l :: vs ∧ Failure.About ⟨.symbolForName x, at_⟩ (us ++ [l]) ∧
        Decides (us ++ [l]) ⟨.symbolForName x, at_⟩ := by
    obtain ⟨us, l, _, _, rfl, _, _, start, _⟩ := State.exists_of_pending ran pending
    exact ⟨us, l, vs, by simpa using split, ⟨l, by simp, start⟩, .symbolForName ran pending⟩
  cases parseFails_of_parse h with
  | blank | fault => cases ofToken
  | pending ran pending => exact located (List.append_nil _).symm ran pending
  | ended ran settled unfinished failure =>
    rw [← failure] at ofToken
    exact absurd (State.isEnd_endFailure settled _) (Cause.not_isEnd_of_isOfToken ofToken)
  | @refused us vs l s _ split ran failed refused =>
    cases refused with
    | unexpected | trailing =>
      exact ⟨us, l, vs, split, ⟨l, by simp, rfl⟩, .refused failed fun _ => rfl⟩
    | symbolForName pending follows => exact located split ran pending
    | @boundLetter w start misnamed starts =>
      rw [misnamed] at ran
      have found := State.run_eq_misnamed_iff.mp ran
      rcases List.eq_nil_or_concat us with rfl | ⟨us, m, rfl⟩
      · cases ran
      · rw [List.concat_eq_append] at found split
        exact ⟨us, m, l :: vs, by simpa using split, found, .boundLetter found⟩

/-- A text that goes on behind the token a failure is about. -/
theorem Query.parse_before_append (split : (lex text).lexemes = us ++ l :: vs)
    (decides : Decides (us ++ [l]) f) {w : String} (apart : Text.SetApart w) :
    parse (Text.before text l.stop ++ w) =
      .error (if f.cause.toldBefore (lex w) then f else ((lex w).refusal w.length).moved l.stop) := by
  have inside := lex_stop_le split
  have cut := lex_before_stop split
  have clean : (lex (Text.before text l.stop)).fault = none := by rw [cut]
  obtain ⟨lines, lexed⟩ := lex_append clean apart
  rw [cut, Text.length_before inside] at lexed
  have nonempty : (lex (Text.before text l.stop ++ w)).tokens ≠ [] := by
    simp [lexed, Lexed.tokens]
  rw [parse_of_tokens nonempty, lexed, decides.parse_eq rfl, String.length_append,
    Text.length_before inside]
  show Except.error (if f.cause.toldBefore ((lex w).moved lines l.stop) then f
    else ((lex w).moved lines l.stop).refusal (l.stop + w.length)) = _
  rw [Cause.toldBefore_moved, Lexed.refusal_moved]

theorem Reading.State.isOfToken_of_run_error (h : start.run ls = .error f) : f.cause.isOfToken := by
  obtain ⟨us, l, vs, s, _, _, _, failure⟩ := exists_of_run_error h
  have refused := s.refused_refusal l.token l.start
  rw [failure] at refused
  cases refused <;> rfl

section

variable {fault : LexFault} {index : Nat} (found : (lex text).fault = some (fault, index))

include found

/-- The fault is told if the tokens in front of it leave it to. -/
theorem Query.parse_of_fault (nonblank : ¬ text.toList.all Text.isBlank)
    (leaves : (lex (Text.before text index)).lexemes = [] ∨
      (∃ q, parse (Text.before text index) = .ok q) ∨
      ∃ g, parse (Text.before text index) = .error g ∧ g.cause.isEnd) :
    parse text = .error ⟨.lexical fault, index⟩ := by
  have cut := lex_before_fault found
  cases ran : State.start.run (lex text).lexemes with
  | ok s => rw [parse, if_neg nonblank, Lexed.parse, ran, found]
  | error f =>
    have failed : parse (Text.before text index) = .error f := parse_of_run_error (by rw [cut, ran])
    rcases leaves with none | ⟨q, parsed⟩ | ⟨g, failed', ended⟩
    · rw [cut] at none
      rw [show (lex text).lexemes = [] from none] at ran
      cases ran
    · cases failed.symm.trans parsed
    · obtain rfl := Except.error.inj (failed.symm.trans failed')
      exact absurd ended (Cause.not_isEnd_of_isOfToken (State.isOfToken_of_run_error ran))

theorem Query.isOfToken_of_parse_before {g : Failure} (failed : parse (Text.before text index) = .error g)
    (nonempty : (lex (Text.before text index)).lexemes ≠ []) (ended : ¬ g.cause.isEnd) :
    g.cause.isOfToken := by
  cases parseFails_of_parse failed with
  | blank blank =>
    exact absurd (Lexeme.lexFrom_blank (by simpa using blank)) nonempty
  | fault ran found' =>
    rw [lex_before_fault found] at found'
    cases found'
  | refused split ran failed refused => exact State.isOfToken_of_run_error failed
  | pending => rfl
  | ended ran settled unfinished failure =>
    rw [← failure] at ended
    exact absurd (State.isEnd_endFailure settled _) ended

/-- The failure of the text in front of a fault is the failure of the whole, but a symbol for a name is
told only by a token. -/
theorem Query.parse_of_failed_before {g : Failure} (failed : parse (Text.before text index) = .error g)
    (ofToken : g.cause.isOfToken) :
    ∃ us l vs, (lex (Text.before text index)).lexemes = us ++ l :: vs ∧ g.About (us ++ [l]) ∧
      parse text = .error (if g.cause.toldBefore ⟨vs, (lex text).fault⟩ then g
        else ⟨.lexical fault, index⟩) ∧
      g.report text = g.report (Text.before text index) := by
  obtain ⟨us, l, vs, split, about, decides⟩ := exists_decides_of_parse failed ofToken
  have front := split.trans (List.append_cons us l vs)
  have whole : (lex text).lexemes = us ++ [l] ++ vs := by
    rw [← front, lex_before_fault found]
  refine ⟨us, l, vs, split, about, ?_, (Failure.report_before ?_).symm⟩
  · have last (waits : g.cause.toldBefore ⟨vs, (lex text).fault⟩ = false) : vs = [] := by
      cases vs with
      | nil => rfl
      | cons m ms =>
        -- In front of the fault, too, `m` would be refused in place of telling `g`.
        rw [parse_of_tokens (by simp [front, Lexed.tokens]), decides.parse_eq front,
          Cause.toldBefore_cons _ _ _ _ (lex text).fault, waits] at failed
        rw [← Except.error.inj failed] at waits
        cases waits
    rw [parse_of_tokens (by simp [whole, Lexed.tokens]), decides.parse_eq whole]
    by_cases told : g.cause.toldBefore ⟨vs, (lex text).fault⟩
    · rw [if_pos told, if_pos told]
    · rw [if_neg told, if_neg told, last (by simpa using told), found]
      rfl
  · have early := about.index_lt split
    have inside := lex_stop_le split
    rw [Text.length_before (lex_fault_lt found).le] at inside
    exact early.le.trans inside

end

/-- A failure about a token stands whatever follows the token, but a symbol for a name and the letter of
a run bound wait: where what follows does not tell them, it is refused itself. A fault of the lexer is
told if the tokens in front of it leave it to, else their failure is, with the same exception. -/
theorem Query.first_failure_decides (text : String) :
    (∀ f, parse text = .error f → f.cause.isOfToken →
      ∃ us l vs, (lex text).lexemes = us ++ l :: vs ∧ f.About (us ++ [l]) ∧
        ∀ w, Text.SetApart w →
          parse (Text.before text l.stop ++ w) = .error (if f.cause.toldBefore (lex w) then f
            else ((lex w).refusal w.length).moved l.stop) ∧
          f.report (Text.before text l.stop ++ w) = f.report text) ∧
    ∀ fault index, (lex text).fault = some (fault, index) → ¬ text.toList.all Text.isBlank →
      ((lex (Text.before text index)).lexemes = [] ∨
        (∃ q, parse (Text.before text index) = .ok q) ∨
        (∃ g, parse (Text.before text index) = .error g ∧ g.cause.isEnd) →
          parse text = .error ⟨.lexical fault, index⟩) ∧
      ∀ g, parse (Text.before text index) = .error g →
        (lex (Text.before text index)).lexemes ≠ [] → ¬ g.cause.isEnd →
          ∃ us l vs, (lex (Text.before text index)).lexemes = us ++ l :: vs ∧ g.About (us ++ [l]) ∧
            parse text = .error (if g.cause.toldBefore ⟨vs, (lex text).fault⟩ then g
              else ⟨.lexical fault, index⟩) ∧
            g.report text = g.report (Text.before text index) := by
  refine ⟨fun f failed ofToken => ?_, fun fault index found nonblank =>
    ⟨parse_of_fault found nonblank, fun g failed nonempty ended =>
      parse_of_failed_before found failed (isOfToken_of_parse_before found failed nonempty ended)⟩⟩
  obtain ⟨us, l, vs, split, about, decides⟩ := exists_decides_of_parse failed ofToken
  refine ⟨us, l, vs, split, about, fun w apart => ⟨parse_before_append split decides apart, ?_⟩⟩
  have inside := about.index_lt split
  have stop : (Text.before text l.stop).length = l.stop := Text.length_before (lex_stop_le split)
  rw [Failure.report_append (by rw [stop]; exact inside.le), Failure.report_before inside.le]

end

/-- A symbol for a name is told by a parenthesis behind it and by no name or fault there, the letter of a
run bound not by the end. -/
theorem Query.first_failure_waits :
    (parse "x = <> )" = .error ⟨.symbolForName "<>", 4⟩ ∧
      Text.before "x = <> )" 6 ++ " y" = "x = <> y" ∧ Text.SetApart " y" ∧
      parse "x = <> y" = .error ⟨.unexpected (.ident "y"), 7⟩) ∧
    (parse "[s<=5] x" = .error ⟨.boundLetter "s", 0⟩ ∧ Text.before "[s<=5] x" 6 ++ "" = "[s<=5]" ∧
      Text.SetApart "" ∧ parse "[s<=5]" = .error ⟨.unexpectedEnd, 6⟩) ∧
    (lex "x = <> @").fault = some (.strayCharacter '@', 7) ∧
      parse (Text.before "x = <> @" 7) = .error ⟨.symbolForName "<>", 4⟩ ∧
      parse "x = <> @" = .error ⟨.lexical (.strayCharacter '@'), 7⟩ := by
  refine ⟨⟨?_, ?_, ?_, ?_⟩, ⟨?_, ?_, ?_, ?_⟩, ?_, ?_, ?_⟩ <;> decide +kernel

end TemporalQuery
