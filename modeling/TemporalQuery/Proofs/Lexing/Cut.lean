import TemporalQuery.Proofs.Lexing.Spelling

/-!
# Cutting texts

Lexemes stand in order (`ordered_lexFrom`), so a text that is cut between two of them, or in front of
the fault, keeps just those in front of the cut (`lexFrom_take`). Where a text stands only moves its
lexemes (`lexFrom_moved`).
-/

namespace TemporalQuery

/-- The lexeme so many lines and characters further on. -/
def Lexeme.moved (lines : Int) (offset : Nat) (l : Lexeme) : Lexeme :=
  { l with line := l.line + lines, start := l.start + offset, stop := l.stop + offset }

def Lexed.moved (lines : Int) (offset : Nat) (lexed : Lexed) : Lexed :=
  ⟨lexed.lexemes.map (·.moved lines offset), lexed.fault.map fun r => (r.1, r.2 + offset)⟩

/-- Lexemes in order between two offsets, and the fault behind them. -/
structure Lexed.Ordered (lexed : Lexed) (start stop : Nat) : Prop where
  within : ∀ l ∈ lexed.lexemes, start ≤ l.start ∧ l.start < l.stop ∧ l.stop ≤ stop
  sorted : lexed.lexemes.Pairwise fun l m => l.stop ≤ m.start
  fault : ∀ r ∈ lexed.fault, start ≤ r.2 ∧ r.2 < stop ∧ ∀ l ∈ lexed.lexemes, l.stop ≤ r.2

theorem Lexed.Ordered.of_skipped {lexed : Lexed} {start stop : Nat}
    (h : lexed.Ordered (start + 1) stop) : lexed.Ordered start stop where
  within l mem := by
    have inside := h.within l mem
    omega
  sorted := h.sorted
  fault r found := by
    obtain ⟨low, high, behind⟩ := h.fault r found
    exact ⟨by omega, high, behind⟩

theorem Lexed.Ordered.cons {lexed : Lexed} {l : Lexeme} {start stop : Nat}
    (h : lexed.Ordered l.stop stop) (low : start ≤ l.start) (nonempty : l.start < l.stop)
    (high : l.stop ≤ stop) : Ordered ⟨l :: lexed.lexemes, lexed.fault⟩ start stop where
  within := by
    rw [List.forall_mem_cons]
    refine ⟨⟨low, nonempty, high⟩, fun m mem => ?_⟩
    have inside := h.within m mem
    omega
  sorted := List.pairwise_cons.mpr ⟨fun m mem => (h.within m mem).1, h.sorted⟩
  fault r found := by
    obtain ⟨behind, inside, rest⟩ := h.fault r found
    exact ⟨by omega, inside, List.forall_mem_cons.mpr ⟨behind, rest⟩⟩

/-- What stands around a lexeme. -/
theorem Lexed.Ordered.around {lexed : Lexed} {start stop : Nat} (h : lexed.Ordered start stop)
    {us vs : List Lexeme} {l : Lexeme} (split : lexed.lexemes = us ++ l :: vs) :
    (∀ m ∈ us, m.stop ≤ l.start) ∧ l.start < l.stop ∧ l.stop ≤ stop ∧ (∀ m ∈ vs, l.stop ≤ m.start) ∧
      ∀ r ∈ lexed.fault, l.stop ≤ r.2 := by
  have mem : l ∈ lexed.lexemes := split ▸ List.mem_append_right us List.mem_cons_self
  have sorted := h.sorted
  rw [split] at sorted
  obtain ⟨_, here, before⟩ := List.pairwise_append.mp sorted
  obtain ⟨behind, _⟩ := List.pairwise_cons.mp here
  obtain ⟨_, nonempty, inside⟩ := h.within l mem
  exact ⟨fun m front => before m front l List.mem_cons_self, nonempty, inside, behind,
    fun r found => (h.fault r found).2.2 l mem⟩

namespace Lexeme

variable {cs : List Char} {line : Int} {start : Nat} {us vs : List Lexeme} {n : Nat}

theorem ordered_lexFrom : (lexFrom line start cs).Ordered start (start + cs.length) := by
  fun_induction lexFrom line start cs with
  | case1 line start => exact ⟨by simp, .nil, by simp⟩
  | case2 line start cs ih =>
    rw [show start + 1 + cs.length = start + ('\n' :: cs).length by simp; omega] at ih
    exact ih.of_skipped
  | case3 line start c cs noNewline skipped ih =>
    rw [show start + 1 + cs.length = start + (c :: cs).length by simp; omega] at ih
    exact ih.of_skipped
  | case4 line start c cs noNewline notSkipped fault found =>
    refine ⟨by simp, .nil, fun r here => ?_⟩
    obtain rfl := Option.some.inj here
    exact ⟨Nat.le_refl _, by simp, by simp⟩
  | case5 line start c cs noNewline notSkipped token taken found stop rest ih =>
    have inside : taken ≤ cs.length := (longest_eq_ok_iff.mp found).extent.1
    have length : stop + (cs.drop taken).length = start + (c :: cs).length := by
      simp only [stop, List.length_drop, List.length_cons]
      omega
    rw [length] at ih
    refine Lexed.Ordered.cons (l := ⟨token, line, start, stop⟩) ih (Nat.le_refl _) ?_ ?_
    · show start < start + taken + 1
      omega
    · rw [← length]
      exact Nat.le_add_right _ _

theorem lexFrom_of_longest {c : Char} {t : Token} (noNewline : c ≠ '\n') (notSkipped : ¬ isSkipped c)
    (found : longest c cs = .ok (t, n)) :
    lexFrom line start (c :: cs) =
      let rest := lexFrom line (start + n + 1) (cs.drop n)
      ⟨⟨t, line, start, start + n + 1⟩ :: rest.lexemes, rest.fault⟩ := by
  rw [lexFrom, if_neg noNewline, if_neg notSkipped, found]

/-- Nothing is lexed in front of the start. -/
theorem lexFrom_take_zero (split : (lexFrom line start cs).lexemes = us ++ vs)
    (before : ∀ l ∈ us, l.stop ≤ start) : lexFrom line start (cs.take 0) = ⟨us, none⟩ := by
  have none : us = [] := by
    refine List.eq_nil_iff_forall_not_mem.mpr fun l mem => ?_
    have inside := ordered_lexFrom.within l (split ▸ List.mem_append_left vs mem)
    have early := before l mem
    omega
  rw [none, List.take_zero, lexFrom]

theorem Longest.take {c : Char} {cs : List Char} {t : Token} {taken n : Nat}
    (h : Longest c cs t taken) (inside : taken ≤ n) : Longest c (cs.take n) t taken := by
  have whole := h
  rw [← List.take_append_drop n cs] at whole
  refine whole.of_append ?_
  rw [List.length_take]
  exact Nat.le_min.mpr ⟨inside, h.extent.1⟩

/-- The text up to a place that neither a lexeme nor the fault reaches across. -/
theorem lexFrom_take (split : (lexFrom line start cs).lexemes = us ++ vs)
    (before : ∀ l ∈ us, l.stop ≤ start + n) (behind : ∀ l ∈ vs, start + n ≤ l.start)
    (noFault : ∀ r ∈ (lexFrom line start cs).fault, start + n ≤ r.2) :
    lexFrom line start (cs.take n) = ⟨us, none⟩ := by
  induction line, start, cs using lexFrom.induct generalizing us n with
  | case1 line start =>
    rw [lexFrom] at split
    obtain ⟨rfl, _⟩ := List.append_eq_nil_iff.mp split.symm
    rw [List.take_nil, lexFrom]
  | case2 line start cs ih =>
    obtain _ | n := n
    · exact lexFrom_take_zero split before
    rw [lexFrom, if_pos rfl] at split noFault
    rw [← Nat.add_assoc, Nat.add_right_comm] at before behind noFault
    rw [List.take_succ_cons, lexFrom, if_pos rfl, ih split before behind noFault]
  | case3 line start c cs noNewline skipped ih =>
    obtain _ | n := n
    · exact lexFrom_take_zero split before
    rw [lexFrom, if_neg noNewline, if_pos skipped] at split noFault
    rw [← Nat.add_assoc, Nat.add_right_comm] at before behind noFault
    rw [List.take_succ_cons, lexFrom, if_neg noNewline, if_pos skipped, ih split before behind noFault]
  | case4 line start c cs noNewline notSkipped fault found =>
    obtain _ | n := n
    · exact lexFrom_take_zero split before
    rw [lexFrom, if_neg noNewline, if_neg notSkipped, found] at noFault
    have late : start + (n + 1) ≤ start := noFault _ rfl
    omega
  | case5 line start c cs noNewline notSkipped token taken found stop =>
    rename_i ih
    obtain _ | n := n
    · exact lexFrom_take_zero split before
    rw [lexFrom_of_longest noNewline notSkipped found] at split noFault
    cases us with
    | nil =>
      rw [← show _ = vs from split] at behind
      have late : start + (n + 1) ≤ start := behind _ List.mem_cons_self
      omega
    | cons l us =>
      obtain ⟨rfl, rest⟩ := List.cons.inj split
      obtain ⟨inside, before⟩ := List.forall_mem_cons.mp before
      replace inside : start + taken + 1 ≤ start + (n + 1) := inside
      have place : start + (n + 1) = start + taken + 1 + (n - taken) := by omega
      have shorter : longest c (cs.take n) = .ok (token, taken) :=
        longest_eq_ok_iff.mpr ((longest_eq_ok_iff.mp found).take (by omega))
      rw [place] at before behind noFault
      rw [List.take_succ_cons, lexFrom_of_longest noNewline notSkipped shorter, List.drop_take,
        ih rest before behind noFault]

theorem lexFrom_moved (line : Int) (start : Nat) (cs : List Char) (lines : Int) (offset : Nat) :
    lexFrom (line + lines) (start + offset) cs = (lexFrom line start cs).moved lines offset := by
  fun_induction lexFrom line start cs with
  | case1 line start =>
    rw [lexFrom]
    rfl
  | case2 line start cs ih =>
    rw [lexFrom, if_pos rfl, Int.add_right_comm, Nat.add_right_comm, ih]
  | case3 line start c cs noNewline skipped ih =>
    rw [lexFrom, if_neg noNewline, if_pos skipped, Nat.add_right_comm, ih]
  | case4 line start c cs noNewline notSkipped fault found =>
    rw [lexFrom, if_neg noNewline, if_neg notSkipped, found]
    rfl
  | case5 line start c cs noNewline notSkipped token taken found stop rest ih =>
    have further : start + offset + taken + 1 = stop + offset := by
      simp only [stop]
      omega
    rw [lexFrom_of_longest noNewline notSkipped found, further, ih]
    rfl

end Lexeme

/-! ### Texts -/

open Lexeme

/-- What stands in front of the offset. -/
def Text.before (text : String) (index : Nat) : String := String.ofList (text.toList.take index)

theorem Text.toList_before (text : String) (index : Nat) :
    (before text index).toList = text.toList.take index := String.toList_ofList

theorem Text.length_before {text : String} {index : Nat} (inside : index ≤ text.length) :
    (before text index).length = index := by
  rw [← String.length_toList, toList_before, List.length_take, String.length_toList]
  exact Nat.min_eq_left inside

theorem Text.before_length (text : String) : before text text.length = text := by
  rw [before, ← String.length_toList, List.take_length, String.ofList_toList]

section

variable {text : String} {us vs : List Lexeme} {l : Lexeme}

theorem lex_eq_lexFrom (text : String) : lex text = lexFrom 1 0 text.toList := rfl

theorem Lexeme.spells_lex (clean : (lex text).fault = none) : Spells text.toList (lex text).tokens := by
  intro line start
  have moved := lexFrom_moved 1 0 text.toList (line - 1) start
  rw [Nat.zero_add, show 1 + (line - 1) = line by omega] at moved
  rw [lex_eq_lexFrom] at clean ⊢
  rw [moved]
  exact ⟨by simp [Lexed.moved, Lexed.tokens, Lexeme.moved, Function.comp_def], by simp [Lexed.moved, clean]⟩

theorem ordered_lex (text : String) : (lex text).Ordered 0 text.length := by
  have ordered : (lexFrom 1 0 text.toList).Ordered 0 (0 + text.toList.length) := ordered_lexFrom
  rwa [Nat.zero_add, String.length_toList] at ordered

theorem lex_stop_le (split : (lex text).lexemes = us ++ l :: vs) : l.stop ≤ text.length :=
  ((ordered_lex text).around split).2.2.1

theorem lex_fault_lt {fault : LexFault} {index : Nat}
    (found : (lex text).fault = some (fault, index)) : index < text.length :=
  ((ordered_lex text).fault _ found).2.1

theorem lex_before {index : Nat} (split : (lex text).lexemes = us ++ vs)
    (before : ∀ l ∈ us, l.stop ≤ index) (behind : ∀ l ∈ vs, index ≤ l.start)
    (noFault : ∀ r ∈ (lex text).fault, index ≤ r.2) :
    lex (Text.before text index) = ⟨us, none⟩ := by
  rw [← Nat.zero_add index] at before behind noFault
  rw [lex_eq_lexFrom, Text.toList_before]
  exact lexFrom_take split before behind noFault

theorem lex_before_start (split : (lex text).lexemes = us ++ l :: vs) :
    lex (Text.before text l.start) = ⟨us, none⟩ := by
  obtain ⟨before, nonempty, _, behind, fault⟩ := (ordered_lex text).around split
  refine lex_before split before ?_ fun r found => ?_
  · refine List.forall_mem_cons.mpr ⟨Nat.le_refl _, fun m mem => ?_⟩
    have later := behind m mem
    omega
  · have later := fault r found
    omega

theorem lex_before_stop (split : (lex text).lexemes = us ++ l :: vs) :
    lex (Text.before text l.stop) = ⟨us ++ [l], none⟩ := by
  obtain ⟨before, nonempty, _, behind, fault⟩ := (ordered_lex text).around split
  rw [List.append_cons] at split
  refine lex_before split (List.forall_mem_append.mpr ⟨fun m mem => ?_, ?_⟩) behind fault
  · have earlier := before m mem
    omega
  · exact List.forall_mem_singleton.mpr (Nat.le_refl _)

theorem lex_before_fault {fault : LexFault} {index : Nat}
    (found : (lex text).fault = some (fault, index)) :
    lex (Text.before text index) = ⟨(lex text).lexemes, none⟩ := by
  obtain ⟨_, _, before⟩ := (ordered_lex text).fault _ found
  refine lex_before (List.append_nil _).symm before nofun fun r same => ?_
  obtain rfl := Option.some.inj (found.symm.trans same)
  exact Nat.le_refl _

/-- Nothing goes on with the text before. -/
def Text.SetApart (w : String) : Prop := ∀ c ∈ w.toList.head?, c = ' '

instance (w : String) : Decidable (Text.SetApart w) :=
  decidable_of_iff (w.toList.head?.all (· = ' ')) (by simp [Text.SetApart, Option.all_eq_true])

/-- What follows a blank is lexed as if it stood alone. -/
theorem lex_append (clean : (lex text).fault = none) {w : String} (apart : Text.SetApart w) :
    ∃ lines, lex (text ++ w) =
      ⟨(lex text).lexemes ++ ((lex w).moved lines text.length).lexemes,
        ((lex w).moved lines text.length).fault⟩ := by
  refine ⟨text.toList.count '\n', ?_⟩
  have loose : Apart text.toList w.toList := by
    intro c _ d hd
    obtain rfl := apart d hd
    exact joins_of_isLoose (.inr rfl)
  rw [lex_eq_lexFrom] at clean
  rw [← String.length_toList, lex_eq_lexFrom, String.toList_append, lexFrom_append clean loose,
    lexFrom_moved]
  rfl

end

end TemporalQuery
