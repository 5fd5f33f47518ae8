import TemporalQuery.Text.Line

/-!
# Writing lines

Lines without a line boundary inside, written with one line ending, are split into these lines again
(`exists_lines_written`). Only an empty last line is lost, where no ending follows it.
-/

namespace TemporalQuery.Text

def Unbroken (cs : List Char) : Prop := ∀ c ∈ cs, isLineBreak c = false

instance : DecidablePred Unbroken := fun cs => List.decidableBAll (isLineBreak · = false) cs

inductive LineEnding
  | lineFeed
  | carriageReturn
  /-- A carriage return, then a line feed. -/
  | both
  deriving DecidableEq

namespace LineEnding

def chars : LineEnding → List Char
  | lineFeed => ['\n']
  | carriageReturn => ['\r']
  | both => ['\r', '\n']

/-- The lines with the ending between them, and behind the last one if that is `closed`. -/
def written (e : LineEnding) (closed : Bool) : List (List Char) → List Char
  | [] => []
  | [l] => l ++ if closed then e.chars else []
  | l :: l' :: ls => l ++ (e.chars ++ written e closed (l' :: ls))

end LineEnding

variable {l cs : List Char} {ls : List (List Char)}

theorem Unbroken.cons {c : Char} (h : Unbroken (c :: l)) : isLineBreak c = false ∧ Unbroken l :=
  List.forall_mem_cons.mp h

theorem Unbroken.lineFeed_notMem (h : Unbroken l) : '\n' ∉ l := fun mem =>
  Bool.false_ne_true ((h _ mem).symm.trans rfl)

/-! ### What is split -/

theorem lines_of_unbroken (h : Unbroken l) (nonempty : l ≠ []) : lines l = [l] := by
  induction l with
  | nil => exact absurd rfl nonempty
  | cons c l ih =>
    obtain ⟨inside, rest⟩ := h.cons
    have notReturn : ∀ ds, c = '\r' → l = '\n' :: ds → False := by
      rintro ds rfl
      cases inside
    rw [lines, if_neg (by simp [inside])]
    · cases l with
      | nil => rfl
      | cons d l => rw [ih rest (List.cons_ne_nil d l)]
    · exact notReturn

/-- A text without boundaries is put in front of the first line behind it. -/
theorem lines_append (h : Unbroken l) (behind : lines cs = [] :: ls) : lines (l ++ cs) = l :: ls := by
  induction l with
  | nil => exact behind
  | cons c l ih =>
    obtain ⟨inside, rest⟩ := h.cons
    rw [List.cons_append, lines, if_neg (by simp [inside]), ih rest]
    rintro ds rfl
    cases inside

/-- A carriage return would be one boundary with a line feed that follows it. -/
theorem LineEnding.lines_chars (e : LineEnding) (apart : e = .carriageReturn → '\n' ∉ cs) :
    lines (e.chars ++ cs) = [] :: lines cs := by
  cases e with
  | lineFeed => simp [chars, lines, isLineBreak]
  | carriageReturn =>
    rw [chars, List.singleton_append, lines, if_pos (by decide)]
    rintro ds _ rfl
    exact apart rfl List.mem_cons_self
  | both => rfl

theorem LineEnding.lineFeed_notMem_written (closed : Bool) (h : ∀ l ∈ ls, Unbroken l) :
    '\n' ∉ written .carriageReturn closed ls := by
  induction ls with
  | nil => exact List.not_mem_nil
  | cons l ls ih =>
    obtain ⟨first, rest⟩ := List.forall_mem_cons.mp h
    have others := ih rest
    have ending : '\n' ∉ LineEnding.carriageReturn.chars := by decide
    cases ls with
    | nil => cases closed <;> simp [written, first.lineFeed_notMem, ending]
    | cons l' ls => simp [written, first.lineFeed_notMem, ending, others]

/-- At most one empty line is not found again. -/
theorem LineEnding.exists_lines_written (e : LineEnding) (closed : Bool)
    (h : ∀ l ∈ ls, Unbroken l) :
    ∃ lost, ls = lines (e.written closed ls) ++ lost ∧ ∀ l ∈ lost, l = [] := by
  induction ls with
  | nil => exact ⟨[], rfl, List.forall_mem_nil _⟩
  | cons l ls ih =>
    obtain ⟨first, rest⟩ := List.forall_mem_cons.mp h
    cases ls with
    | nil =>
      cases closed with
      | true =>
        have ended := e.lines_chars fun _ => List.not_mem_nil
        refine ⟨[], ?_, List.forall_mem_nil _⟩
        rw [List.append_nil] at ended
        rw [written, if_pos rfl, lines_append first ended]
        rfl
      | false =>
        rw [written, if_neg Bool.false_ne_true, List.append_nil]
        by_cases empty : l = []
        · exact ⟨[[]], by rw [empty]; rfl, by simp⟩
        · exact ⟨[], by rw [lines_of_unbroken first empty]; rfl, List.forall_mem_nil _⟩
    | cons l' ls =>
      obtain ⟨lost, others, empty⟩ := ih rest
      have ended : lines (e.chars ++ e.written closed (l' :: ls)) =
          [] :: lines (e.written closed (l' :: ls)) := by
        refine e.lines_chars ?_
        rintro rfl
        exact lineFeed_notMem_written closed rest
      refine ⟨lost, ?_, empty⟩
      rw [written, lines_append first ended, List.cons_append, ← others]

end TemporalQuery.Text
