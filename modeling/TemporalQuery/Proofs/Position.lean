import TemporalQuery.Position
import Mathlib.Algebra.GroupWithZero.Nat
import Mathlib.Data.List.Induction

/-!
# Positions and offsets

A position says which line of the text and how far in it, so it can be turned back into the offset
(`located_after`), and further on in the text it is later (`before_of_lt`).
-/

namespace TemporalQuery

namespace Position

/-- The order in which positions are reached in reading: by line, then by column. -/
def Before (p q : Position) : Prop := p.line < q.line ∨ p.line = q.line ∧ p.column < q.column

theorem Before.trans {p q r : Position} (h : p.Before q) (h' : q.Before r) : p.Before r := by
  unfold Before at *
  omega

/-- In a text of these lines, the position has the offset: so many lines, each with the line feed behind
it, and so many characters of the next line stand in front of it. -/
structure Located (p : Position) (lines : List (List Char)) (offset : Nat) : Prop where
  line : 1 ≤ p.line ∧ p.line ≤ lines.length
  column : 1 ≤ p.column ∧ ∃ l, lines[p.line - 1]? = some l ∧ p.column - 1 ≤ l.length
  offset : ((lines.take (p.line - 1)).map List.length).sum + (p.line - 1) + (p.column - 1) = offset

/-! ### One character more -/

theorem after_concat (cs : List Char) (c : Char) :
    after (cs ++ [c]) =
      if c = '\n' then ⟨(after cs).line + 1, 1⟩ else ⟨(after cs).line, (after cs).column + 1⟩ := by
  by_cases newline : c = '\n'
  · simp [after, newline]
  · simp [after, newline]

theorem before_concat (cs : List Char) (c : Char) : (after cs).Before (after (cs ++ [c])) := by
  rw [after_concat]
  split
  · exact .inl (Nat.lt_succ_self _)
  · exact .inr ⟨rfl, Nat.lt_succ_self _⟩

theorem before_of_lt {cs : List Char} {i j : Nat} (earlier : i < j) (inside : j ≤ cs.length) :
    (after (cs.take i)).Before (after (cs.take j)) := by
  induction j with
  | zero => omega
  | succ j ih =>
    have step : (after (cs.take j)).Before (after (cs.take (j + 1))) := by
      rw [List.take_succ_eq_append_getElem inside]
      exact before_concat _ _
    by_cases last : i = j
    · rw [last]
      exact step
    · exact (ih (by omega) (by omega)).trans step

/-! ### The lines up to a position -/

/-- A text up to some place is whole lines and the start of a line, so many as its position says. The lines
of what follows go on from there. -/
theorem exists_lines (before rest : List Char) :
    ∃ (front : List (List Char)) (start : List Char),
      after before = ⟨front.length + 1, start.length + 1⟩ ∧
      (front.map List.length).sum + front.length + start.length = before.length ∧
      (before ++ rest).splitOn '\n' = front ++ (rest.splitOn '\n').modifyHead (start ++ ·) := by
  induction before using List.reverseRecOn generalizing rest with
  | nil =>
    obtain ⟨l, more, split⟩ := List.exists_cons_of_ne_nil (List.splitOn_ne_nil '\n' rest)
    exact ⟨[], [], rfl, rfl, by simp [split]⟩
  | append_singleton before c ih =>
    obtain ⟨front, start, position, length, lines⟩ := ih (c :: rest)
    obtain ⟨l, more, split⟩ := List.exists_cons_of_ne_nil (List.splitOn_ne_nil '\n' rest)
    rw [List.append_assoc, List.singleton_append, lines, after_concat, position,
      List.splitOn_cons_eq_if_modifyHead, split]
    by_cases newline : c = '\n'
    · refine ⟨front ++ [start], [], by simp [newline], ?_, by simp [newline]⟩
      simp
      omega
    · refine ⟨front, start ++ [c], by simp [newline], ?_, by simp [newline]⟩
      simp
      omega

theorem located_after (before rest : List Char) :
    (after before).Located ((before ++ rest).splitOn '\n') before.length := by
  obtain ⟨front, start, position, length, lines⟩ := exists_lines before rest
  obtain ⟨l, more, split⟩ := List.exists_cons_of_ne_nil (List.splitOn_ne_nil '\n' rest)
  rw [split, List.modifyHead_cons] at lines
  rw [lines, position]
  refine ⟨by simp, ⟨by simp, start ++ l, by simp, by simp⟩, ?_⟩
  simpa using length

end Position

/-! ### Offsets in a text -/

theorem position_natCast (text : String) (i : Nat) :
    position text i = .after (text.toList.take i) := by
  rw [position, Int.toNat_natCast]

theorem position_eq_start {text : String} {index : Int} (h : index ≤ 0) :
    position text index = position text 0 := by
  rw [position, position, Int.toNat_of_nonpos h, Int.toNat_zero]

theorem position_eq_stop {text : String} {index : Int} (h : text.length ≤ index) :
    position text index = position text text.length := by
  have inside : text.toList.length ≤ index.toNat := by
    rw [String.length_toList]
    omega
  rw [position_natCast, position, List.take_of_length_le inside, ← String.length_toList, List.take_length]

/-- Positions order the offsets of a text as they stand, and each can be turned back into its offset. An
offset outside the text has the position of the nearer end. -/
theorem position_identifies_offset (text : String) :
    (∀ i j : Nat, i < j → j ≤ text.length → (position text i).Before (position text j)) ∧
    (∀ i : Nat, i ≤ text.length → (position text i).Located (text.toList.splitOn '\n') i) ∧
    (∀ index : Int, index < 0 → position text index = position text 0) ∧
    ∀ index : Int, text.length < index → position text index = position text text.length := by
  refine ⟨?_, ?_, fun index low => position_eq_start (Int.le_of_lt low),
    fun index high => position_eq_stop (Int.le_of_lt high)⟩
  · intro i j earlier inside
    rw [position_natCast, position_natCast]
    apply Position.before_of_lt earlier
    rwa [String.length_toList]
  · intro i inside
    have located := Position.located_after (text.toList.take i) (text.toList.drop i)
    have length : (text.toList.take i).length = i := by
      rw [List.length_take, String.length_toList]
      omega
    rwa [List.take_append_drop, length, ← position_natCast] at located

def wrappedText : String := "a\n\nb c\n"

/-- The end of a line and the start of the next, an empty line, and both sides of the text. -/
theorem wrappedText_located :
    ((1 < 2 ∧ 2 ≤ wrappedText.length) ∧ (position wrappedText 1).Before (position wrappedText 2)) ∧
    (7 ≤ wrappedText.length ∧ (position wrappedText 7).Located (wrappedText.toList.splitOn '\n') 7) ∧
    ((-3 : Int) < 0 ∧ position wrappedText (-3) = ⟨1, 1⟩) ∧
    (wrappedText.length < (10 : Int) ∧ position wrappedText 10 = ⟨4, 1⟩) := by
  obtain ⟨ordered, located, low, high⟩ := position_identifies_offset wrappedText
  refine ⟨⟨by decide, ordered 1 2 (by decide) (by decide)⟩, ⟨by decide, located 7 (by decide)⟩,
    ⟨by decide, ?_⟩, ⟨by decide, ?_⟩⟩
  · rw [low (-3) (by decide)]
    decide
  · rw [high 10 (by decide)]
    decide

end TemporalQuery
