import TemporalQuery.Failure
import TemporalQuery.Proofs.Lexing.Cut
import TemporalQuery.Proofs.Position

/-!
# Counting lines while lexing

The lexer counts the line feeds that it skips, position by position, and a position counts those in front
of an offset. `Scans` has the lexer go through a text step by step. No token holds a line feed, so the two
counts agree wherever it stands (`Agrees.scans`), at each lexeme and at a fault.
-/

namespace TemporalQuery

open Lexeme

/-- Where the lexer stands: the line it counts, the offset, and what is still to be lexed. -/
structure Cursor where
  line : Int
  offset : Nat
  rest : List Char

namespace Cursor

def start (text : String) : Cursor := ⟨1, 0, text.toList⟩

/-- No token starts at the cursor. -/
def Faults (p : Cursor) (fault : LexFault) : Prop :=
  ∃ c cs, p.rest = c :: cs ∧ c ≠ '\n' ∧ ¬ isSkipped c ∧ longest c cs = .error fault

/-- One step of the lexer, with what it skips and what it makes. -/
inductive Step : Cursor → List Char → List Lexeme → Cursor → Prop
  | lineFeed (line : Int) (offset : Nat) (cs : List Char) :
      Step ⟨line, offset, '\n' :: cs⟩ ['\n'] [] ⟨line + 1, offset + 1, cs⟩
  | blank (line : Int) (offset : Nat) {c : Char} (cs : List Char) (noNewline : c ≠ '\n')
      (skips : isSkipped c) : Step ⟨line, offset, c :: cs⟩ [c] [] ⟨line, offset + 1, cs⟩
  | token (line : Int) (offset : Nat) {c : Char} {cs : List Char} {t : Token} {n : Nat}
      (noNewline : c ≠ '\n') (notSkipped : ¬ isSkipped c) (found : longest c cs = .ok (t, n)) :
      Step ⟨line, offset, c :: cs⟩ [] [⟨t, line, offset, offset + n + 1⟩]
        ⟨line, offset + n + 1, cs.drop n⟩

/-- Any number of steps, with all they skip and all they make. -/
inductive Scans : Cursor → List Char → List Lexeme → Cursor → Prop
  | done (p : Cursor) : Scans p [] [] p
  | step {p q r : Cursor} {skipped skipped' : List Char} {ls ls' : List Lexeme}
      (first : Step p skipped ls q) (rest : Scans q skipped' ls' r) :
      Scans p (skipped ++ skipped') (ls ++ ls') r

/-- The lexer goes on until the text ends or a fault stands there, and gives what it made on its way. -/
theorem exists_scans (line : Int) (offset : Nat) (cs : List Char) :
    ∃ skipped q, Scans ⟨line, offset, cs⟩ skipped (lexFrom line offset cs).lexemes q ∧
      ((lexFrom line offset cs).fault = none → q.rest = []) ∧
      ∀ r ∈ (lexFrom line offset cs).fault, q.offset = r.2 ∧ q.Faults r.1 := by
  fun_induction lexFrom line offset cs with
  | case1 line offset => exact ⟨[], _, .done _, by simp, by simp⟩
  | case2 line offset cs ih =>
    obtain ⟨skipped, q, scans, stops⟩ := ih
    exact ⟨_, q, .step (.lineFeed line offset cs) scans, stops⟩
  | case3 line offset c cs noNewline skips ih =>
    obtain ⟨skipped, q, scans, stops⟩ := ih
    exact ⟨_, q, .step (.blank line offset cs noNewline skips) scans, stops⟩
  | case4 line offset c cs noNewline notSkipped fault found =>
    refine ⟨[], _, .done _, by simp, ?_⟩
    intro r here
    obtain rfl := Option.some.inj here
    exact ⟨rfl, c, cs, rfl, noNewline, notSkipped, found⟩
  | case5 line offset c cs noNewline notSkipped token taken found stop rest ih =>
    obtain ⟨skipped, q, scans, stops⟩ := ih
    exact ⟨_, q, .step (.token line offset noNewline notSkipped found) scans, stops⟩

/-! ### The two counts -/

/-- The cursor stands in the text at its offset, and counts the line that the text has there. -/
structure Agrees (p : Cursor) (whole : List Char) : Prop where
  rest : p.rest = whole.drop p.offset
  line : p.line = (Position.after (whole.take p.offset)).line

variable {p q : Cursor} {whole skipped : List Char} {ls : List Lexeme}

/-- What is passed over moves the line on by the line feeds in it. -/
theorem Agrees.passed {line line' : Int} {offset offset' : Nat} {front cs : List Char}
    (h : Agrees ⟨line, offset, front ++ cs⟩ whole) (length : offset' = offset + front.length)
    (counted : line' = line + front.count '\n') : Agrees ⟨line', offset', cs⟩ whole := by
  obtain ⟨rest, counts⟩ := h
  dsimp only at rest counts
  subst length
  constructor
  · dsimp only
    rw [← List.drop_drop, ← rest, List.drop_left]
  · dsimp only
    rw [List.take_add, ← rest, List.take_left, counted, counts]
    simp only [Position.after, List.count_append]
    omega

/-- A step keeps the counts together, and raises them by the line feeds that it skips. -/
theorem Agrees.step (h : p.Agrees whole) (taken : Step p skipped ls q) :
    q.Agrees whole ∧ q.line = p.line + skipped.count '\n' ∧
      ∀ l ∈ ls, l.line = (Position.after (whole.take l.start)).line := by
  cases taken with
  | lineFeed line offset cs =>
    have h : Agrees ⟨line, offset, ['\n'] ++ cs⟩ whole := h
    exact ⟨h.passed rfl rfl, rfl, by simp⟩
  | @blank line offset c cs noNewline skips =>
    have none : [c].count '\n' = 0 := List.count_eq_zero_of_not_mem (by simpa using Ne.symm noNewline)
    have h : Agrees ⟨line, offset, [c] ++ cs⟩ whole := h
    refine ⟨h.passed rfl ?_, ?_, by simp⟩
    · simp [none]
    · simp [none]
  | @token line offset c cs t n noNewline notSkipped found =>
    obtain ⟨inside, noneTaken, _⟩ := (longest_eq_ok_iff.mp found).extent
    have none : (c :: cs.take n).count '\n' = 0 := by
      rw [List.count_cons_of_ne noNewline, List.count_eq_zero_of_not_mem noneTaken]
    have length : offset + n + 1 = offset + (c :: cs.take n).length := by
      rw [List.length_cons, List.length_take_of_le inside, Nat.add_assoc]
    have here := h.line
    rw [← List.take_append_drop n cs, ← List.cons_append] at h
    refine ⟨h.passed length (by simp [none]), by simp, ?_⟩
    intro l mem
    obtain rfl := List.mem_singleton.mp mem
    exact here

/-- The counts agree all the way. -/
theorem Agrees.scans (h : p.Agrees whole) (passed : Scans p skipped ls q) :
    q.Agrees whole ∧ q.line = p.line + skipped.count '\n' ∧
      ∀ l ∈ ls, l.line = (Position.after (whole.take l.start)).line := by
  induction passed with
  | done p => exact ⟨h, by simp, by simp⟩
  | step first rest ih =>
    obtain ⟨between, counted, made⟩ := h.step first
    obtain ⟨after, counted', made'⟩ := ih between
    refine ⟨after, ?_, List.forall_mem_append.mpr ⟨made, made'⟩⟩
    rw [counted', counted, List.count_append]
    omega

theorem agrees_start (text : String) : (start text).Agrees text.toList := ⟨rfl, rfl⟩

end Cursor

/-- The line that the lexer counts is the line of the position, at each lexeme and where it stops at a
fault: there it is one more than the line feeds that were skipped on the way. -/
theorem line_counts_agree (text : String) :
    (∀ l ∈ (lex text).lexemes, l.line = (position text l.start).line) ∧
    ∀ e, (lex text).error text = some e →
      ∃ skipped fault p, Cursor.Scans (.start text) skipped (lex text).lexemes p ∧ p.Faults fault ∧
        e.kind = fault.kind ∧ e.message = fault.message ∧ e.index = p.offset ∧
        p.line = e.position.line ∧ e.position.line = 1 + skipped.count '\n' := by
  obtain ⟨skipped, p, scans, _, stops⟩ := Cursor.exists_scans 1 0 text.toList
  obtain ⟨there, counted, made⟩ := (Cursor.agrees_start text).scans scans
  constructor
  · intro l mem
    rw [position_natCast]
    exact made l mem
  · intro e failed
    obtain ⟨⟨fault, index⟩, found, rfl⟩ := Option.map_eq_some_iff.mp failed
    obtain ⟨same, faults⟩ := stops _ found
    obtain rfl : p.offset = index := same
    have line : p.line = (position text p.offset).line := by
      rw [position_natCast]
      exact there.line
    have known : (position text p.offset).line = 1 + skipped.count '\n' := by
      have start : (Cursor.start text).line = 1 := rfl
      omega
    exact ⟨skipped, fault, p, scans, faults, rfl, rfl, rfl, line, known⟩

/-- A carriage return ends no line, and the line feed between the quotes is not skipped. -/
def brokenQuote : String := "x\r\n\n= 'y\n'"

theorem brokenQuote_counted :
    (⟨.relation .eq "=", 3, 4, 5⟩ ∈ (lex brokenQuote).lexemes ∧ 3 = (position brokenQuote 4).line) ∧
    (lex brokenQuote).error brokenQuote =
      some ⟨.lexer, "Invalid quoted identifier 'y\n'", 6, ⟨3, 3⟩⟩ ∧
    ∃ skipped p, Cursor.Scans (.start brokenQuote) skipped (lex brokenQuote).lexemes p ∧
      6 = (p.offset : Int) ∧ p.line = 3 ∧ 3 = 1 + skipped.count '\n' := by
  have made : ⟨.relation .eq "=", 3, 4, 5⟩ ∈ (lex brokenQuote).lexemes := by decide +kernel
  have failed : (lex brokenQuote).error brokenQuote =
      some ⟨.lexer, "Invalid quoted identifier 'y\n'", 6, ⟨3, 3⟩⟩ := by decide +kernel
  obtain ⟨lexemes, errors⟩ := line_counts_agree brokenQuote
  obtain ⟨skipped, fault, p, scans, _, _, _, index, line, counted⟩ := errors _ failed
  exact ⟨⟨made, Int.ofNat.inj (lexemes _ made)⟩, failed, skipped, p, scans, index, line, counted⟩

end TemporalQuery
