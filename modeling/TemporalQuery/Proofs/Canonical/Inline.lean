import TemporalQuery.Proofs.Canonical.RoundTrip
import TemporalQuery.Proofs.Lexing.Trimmed
import TemporalQuery.Proofs.Text.Lines

/-!
# Canonical text on one line

Canonical text has no blank at its ends, and none but spaces inside (`Query.inline_text`). So it is a line
as it is, and trimming leaves it alone.
-/

namespace TemporalQuery

open Lexeme

theorem Text.isBlank_of_isLineBreak {c : Char} (h : isLineBreak c) : isBlank c := by
  simp only [isLineBreak, Bool.or_eq_true, decide_eq_true_eq] at h
  rcases h with ((((((((rfl | rfl) | rfl) | rfl) | rfl) | rfl) | rfl) | rfl) | rfl) | rfl <;> decide

/-- Not empty, without blanks at the ends, and without blanks other than spaces. -/
structure Text.Inline (s : String) : Prop where
  nonempty : s.toList ≠ []
  front : ∀ c ∈ s.toList.head?, isBlank c = false
  behind : ∀ c ∈ s.toList.getLast?, isBlank c = false
  spaces : ∀ c ∈ s.toList, isBlank c → c = ' '

open Text (Inline)

namespace Text.Inline

variable {s t : String}

theorem of_solid (nonempty : s.toList ≠ []) (solid : ∀ c ∈ s.toList, isBlank c = false) : Inline s where
  nonempty := nonempty
  front c first := solid c (List.mem_of_mem_head? first)
  behind c last := solid c (List.mem_of_getLast? last)
  spaces c mem blank := absurd (solid c mem) (by simp [blank])

theorem of_check (h : (s.toList ≠ [] && s.toList.all (!isBlank ·)) = true) : Inline s := by
  rw [Bool.and_eq_true, decide_eq_true_eq, List.all_eq_true] at h
  exact of_solid h.1 fun c mem => by simpa using h.2 c mem

theorem followed (h : Inline s) {v : List Char} (spaces : ∀ c ∈ v, isBlank c → c = ' ')
    (behind : ∀ c ∈ v.getLast?, isBlank c = false) : Inline (s ++ String.ofList v) where
  nonempty := by simp [h.nonempty]
  front c first := by
    rw [String.toList_append, List.head?_append_of_ne_nil _ h.nonempty] at first
    exact h.front c first
  behind c last := by
    rw [String.toList_append, String.toList_ofList, List.getLast?_append] at last
    rcases Option.or_eq_some_iff.mp last with found | ⟨_, found⟩
    · exact behind c found
    · exact h.behind c found
  spaces c mem blank := by
    rw [String.toList_append, String.toList_ofList, List.mem_append] at mem
    exact mem.elim (h.spaces c · blank) (spaces c · blank)

theorem append (hs : Inline s) (ht : Inline t) : Inline (s ++ t) := by
  have whole := hs.followed ht.spaces ht.behind
  rwa [String.ofList_toList] at whole

theorem spaced (hs : Inline s) (ht : Inline t) : Inline (s ++ " " ++ t) := by
  have spaces : ∀ c ∈ ' ' :: t.toList, isBlank c → c = ' ' :=
    List.forall_mem_cons.mpr ⟨fun _ => rfl, ht.spaces⟩
  have behind : ∀ c ∈ (' ' :: t.toList).getLast?, isBlank c = false := by
    rw [List.getLast?_cons_of_ne_nil ht.nonempty]
    exact ht.behind
  have whole := hs.followed spaces behind
  rwa [String.ofList_cons, String.ofList_toList, ← String.append_assoc] at whole

/-- A text of which the beginning gives way to a name between quotes. -/
theorem quoted_drop {x : String} (hx : Inline (Identifier.quoted x)) (hs : Inline s) (n : Nat) :
    Inline (Identifier.quoted x ++ String.ofList (s.toList.drop n)) := by
  refine hx.followed (fun c mem => hs.spaces c (List.mem_of_mem_drop mem)) fun c last => ?_
  rw [List.getLast?_drop] at last
  split at last
  · cases last
  · exact hs.behind c last

theorem intercalate {parts : List String} (nonempty : parts ≠ []) (h : ∀ s ∈ parts, Inline s) :
    Inline (" ".intercalate parts) := by
  induction parts with
  | nil => exact absurd rfl nonempty
  | cons s parts ih =>
    obtain ⟨first, rest⟩ := List.forall_mem_cons.mp h
    by_cases last : parts = []
    · rw [last, String.intercalate_singleton]
      exact first
    · rw [String.intercalate_cons_of_ne_nil last]
      exact first.spaced (ih last rest)

theorem parenthesized (h : Inline s) : Inline (TemporalQuery.parenthesized s) :=
  ((of_check (by decide)).append h).append (of_check (by decide))

theorem of_word {x : String} (h : Identifier.IsWord x) : Inline x :=
  of_solid h.nonempty fun c mem => isBlank_of_isWordChar (h.word c mem)

theorem number (n : Nat) : Inline (toString n) :=
  of_solid (toString_ne_nil n) fun _ mem => isBlank_of_isWordChar (isWordChar_of_mem_toString mem)

theorem quoted (h : Inline s) : Inline (Identifier.quoted s) :=
  ((of_check (by decide)).append h).append (of_check (by decide))

/-- A text on one line is a line as it is. -/
theorem trim_eq (h : Inline s) : trim s.toList = s.toList := trim_eq_self h.front h.behind

theorem unbroken (h : Inline s) : Unbroken s.toList := by
  intro c mem
  by_contra broken
  rw [Bool.not_eq_false] at broken
  rw [h.spaces c mem (isBlank_of_isLineBreak broken)] at broken
  exact Bool.false_ne_true broken

end Text.Inline

theorem Identifier.inline_text {x : String} (h : IsWord x) : Inline (text x) := by
  unfold text
  split
  · exact (Inline.of_word h).quoted
  · exact .of_word h

theorem ArithOp.inline_symbol (op : ArithOp) : Inline op.symbol := by
  cases op <;> exact .of_check (by decide)

theorem RelOp.inline_symbol (op : RelOp) : Inline op.symbol := by
  cases op <;> exact .of_check (by decide)

theorem Connective.inline_symbol (op : Connective) : Inline op.symbol := by
  cases op <;> exact .of_check (by decide)

theorem Expr.inline_text {e : Expr} (h : e.Writable) : Inline e.text := by
  induction e with
  | int n => exact .number n
  | name x => exact Identifier.inline_text h
  | minus e ih =>
    unfold text
    split
    · exact (Inline.of_check (by decide)).append (ih h)
    · exact (Inline.of_check (by decide)).append (ih h).parenthesized
  | group e ih => exact (ih h).parenthesized
  | binary op l r ihl ihr =>
    have left := (ihl h.1).spaced op.inline_symbol
    unfold text
    split
    · exact left.spaced (ihr h.2).parenthesized
    · exact left.spaced (ihr h.2)

theorem Condition.inline_text {c : Condition} (h : c.Writable) : Inline c.text := by
  induction c with
  | constant k => cases k <;> exact .of_check (by decide)
  | bare e => exact e.inline_text h
  | compare l op r => exact ((Expr.inline_text h.1).spaced op.inline_symbol).spaced (Expr.inline_text h.2)
  | unary op c ih =>
    have operand : Inline (if c.isPrimary then c.text else parenthesized c.text) := by
      split
      · exact ih h
      · exact (ih h).parenthesized
    cases op with
    | negation => exact (Inline.of_check (by decide)).append operand
    | nextState =>
      have word : Inline "next" := .of_check (by decide)
      exact word.spaced operand
  | group c ih => exact (ih h).parenthesized
  | binary op l r ihl ihr =>
    have left := (ihl h.1).spaced op.inline_symbol
    unfold text
    split
    · exact left.spaced (ihr h.2).parenthesized
    · exact left.spaced (ihr h.2)

theorem Quantifier.inline_symbol (k : Quantifier) : Inline k.symbol := by
  cases k <;> exact .of_check (by decide)

theorem Modality.inline_symbol (m : Modality) : Inline m.symbol := by
  cases m <;> exact .of_check (by decide)

theorem Bound.inline_text (b : Bound) : Inline b.text := by
  cases b with
  | time n =>
    exact ((Inline.of_check (by decide)).append (.number n)).append (.of_check (by decide))
  | steps n =>
    exact ((Inline.of_check (by decide)).append (.number n)).append (.of_check (by decide))

namespace Query

theorem inline_conditionText {q : Query} (h : q.condition.Writable) : Inline q.conditionText := by
  have condition := Condition.inline_text h
  unfold conditionText
  split
  · rename_i x lead
    have word : Inline x := .of_word (Condition.isWord_of_leadingName? h lead)
    split
    · exact word.quoted.quoted_drop condition _
    · exact condition
  · exact condition

theorem inline_text {q : Query} (h : q.Writable) : Inline q.text := by
  have condition := inline_conditionText h.condition
  refine Inline.intercalate (by simp) fun s mem => ?_
  simp only [List.mem_append, List.mem_filterMap, List.mem_cons, List.not_mem_nil, or_false, id_eq,
    exists_eq_right] at mem
  rcases mem with (quantifier | modality | bound) | rfl
  · obtain ⟨k, _, rfl⟩ := Option.map_eq_some_iff.mp quantifier.symm
    exact k.inline_symbol
  · obtain ⟨m, _, rfl⟩ := Option.map_eq_some_iff.mp modality.symm
    exact m.inline_symbol
  · obtain ⟨b, _, rfl⟩ := Option.map_eq_some_iff.mp bound.symm
    exact b.inline_text
  · exact condition

end Query

end TemporalQuery
