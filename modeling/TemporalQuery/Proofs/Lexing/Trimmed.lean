import TemporalQuery.Proofs.Lexing.Blanks
import TemporalQuery.Proofs.Reading.Acceptance
import Mathlib.Data.List.DropRight

/-!
# Trimmed texts

No token has a blank in it, so blanks around a text add nothing to its tokens. What is read is read without
them as the same query (`Query.parse_trim`), and it never starts with the sign of a comment
(`Query.head?_ne_hash_of_parse`).
-/

namespace TemporalQuery

/-! ### Trimming -/

namespace Text

variable {cs : List Char}

theorem trim_eq_rdropWhile (cs : List Char) : trim cs = (cs.dropWhile isBlank).rdropWhile isBlank := rfl

theorem exists_trim (cs : List Char) : ∃ front behind, cs = front ++ (trim cs ++ behind) ∧
    (∀ c ∈ front, isBlank c) ∧ ∀ c ∈ behind, isBlank c := by
  refine ⟨cs.takeWhile isBlank, (cs.dropWhile isBlank).rtakeWhile isBlank, ?_,
    fun c => List.mem_takeWhile_imp, fun c => List.mem_rtakeWhile_imp⟩
  rw [trim_eq_rdropWhile, List.rdropWhile_append_rtakeWhile, List.takeWhile_append_dropWhile]

theorem isBlank_of_head?_dropWhile {c : Char} (h : (cs.dropWhile isBlank).head? = some c) :
    isBlank c = false := by
  have kept := List.head?_dropWhile_not isBlank cs
  rw [h] at kept
  simpa using kept

theorem head?_trim (cs : List Char) : (trim cs).head? = (cs.dropWhile isBlank).head? := by
  rw [trim_eq_rdropWhile]
  cases found : cs.dropWhile isBlank with
  | nil => rfl
  | cons c rest =>
    have notBlank : isBlank c = false := isBlank_of_head?_dropWhile (by rw [found]; rfl)
    have kept : (c :: rest).rdropWhile isBlank ≠ [] := by
      rw [ne_eq, List.rdropWhile_eq_nil_iff]
      intro blank
      exact Bool.false_ne_true (notBlank.symm.trans (blank c List.mem_cons_self))
    obtain ⟨behind, whole⟩ := List.rdropWhile_prefix isBlank (l := c :: rest)
    rw [← List.head?_append_of_ne_nil _ kept, whole]

theorem trim_eq_self (front : ∀ c ∈ cs.head?, isBlank c = false)
    (behind : ∀ c ∈ cs.getLast?, isBlank c = false) : trim cs = cs := by
  have kept : cs.dropWhile isBlank = cs := by
    cases cs with
    | nil => rfl
    | cons c cs => exact List.dropWhile_cons_of_neg (by simp [front c rfl])
  rw [trim_eq_rdropWhile, kept, List.rdropWhile_eq_self_iff]
  intro nonempty
  rw [behind _ (List.getLast?_eq_some_getLast nonempty)]
  exact Bool.false_ne_true

end Text

/-! ### Blanks and tokens -/

open Lexeme

theorem Lexeme.isBlank_of_isWordChar {c : Char} (h : isWordChar c) : Text.isBlank c = false := by
  have all : ∀ n < 128, isWordChar (Char.ofNat n) → Text.isBlank (Char.ofNat n) = false := by
    decide +kernel
  have known := all c.toNat (isWordChar_lt h)
  rw [Char.ofNat_toNat] at known
  exact known h

theorem Spelling.isBlank_eq_false {w : List Char} {r : Except LexFault Token} (h : Spelling w r) :
    ∀ c ∈ w, Text.isBlank c = false := by
  cases h with
  | symbol listed =>
    have all : Token.symbols.all (fun r => r.1.all fun c => !Text.isBlank c) = true := by decide
    simpa using List.all_eq_true.mp all _ listed
  | word _ chars => exact fun c mem => isBlank_of_isWordChar (chars c mem)
  | @quoted q w quote _ chars =>
    have mark : Text.isBlank q = false := by rcases quote with rfl | rfl <;> decide
    intro c mem
    rw [List.mem_cons, List.mem_append, List.mem_singleton] at mem
    rcases mem with rfl | inside | rfl
    · exact mark
    · exact isBlank_of_isWordChar (chars c inside)
    · exact mark

/-- A blank stands between the lexemes. -/
theorem Lexed.Segments.outside_of_isBlank {lexed : Lexed} {whole : List Char} {start : Nat}
    (h : lexed.Segments whole start) {i : Nat} {c : Char} (here : whole[i]? = some c)
    (blank : Text.isBlank c) : ∀ l ∈ lexed.lexemes, i < l.start ∨ l.stop ≤ i := by
  intro l mem
  by_contra inside
  rw [not_or, Nat.not_lt, Nat.not_le] at inside
  have part : c ∈ whole.extract l.start l.stop := by
    rw [List.extract_eq_take_drop]
    refine List.mem_of_getElem? (i := i - l.start) ?_
    rw [List.getElem?_take_of_lt (by omega), List.getElem?_drop, Nat.add_sub_cancel' inside.1, here]
  have notBlank := (h.spelled l mem).spelling.isBlank_eq_false c part
  exact Bool.false_ne_true (notBlank.symm.trans blank)

namespace Lexeme

variable {cs u v : List Char}

theorem isSpace_of_isBlank (clean : (lexFrom 1 0 cs).fault = none) {c : Char} (mem : c ∈ cs)
    (blank : Text.isBlank c) : IsSpace c := by
  have segments : (lexFrom 1 0 cs).Segments cs 0 := segments_lexFrom rfl
  obtain ⟨i, here⟩ := List.mem_iff_getElem?.mp mem
  exact segments.between clean i c (Nat.zero_le i) here (segments.outside_of_isBlank here blank)

theorem stop_le_of_blanks (blank : ∀ c ∈ v, Text.isBlank c) :
    ∀ l ∈ (lexFrom 1 0 (u ++ v)).lexemes, l.stop ≤ u.length := by
  intro l mem
  have segments : (lexFrom 1 0 (u ++ v)).Segments (u ++ v) 0 := segments_lexFrom rfl
  have inside := ordered_lexFrom.within l mem
  rw [List.length_append] at inside
  by_contra across
  have last : l.stop - 1 - u.length < v.length := by omega
  have here : (u ++ v)[l.stop - 1]? = some v[l.stop - 1 - u.length] := by
    rw [List.getElem?_append_right (by omega), List.getElem?_eq_getElem last]
  have outside := segments.outside_of_isBlank here (blank _ (List.getElem_mem last)) l mem
  omega

theorem lexFrom_blanks_cut (clean : (lexFrom 1 0 (u ++ v)).fault = none)
    (blank : ∀ c ∈ v, Text.isBlank c) : lexFrom 1 0 u = lexFrom 1 0 (u ++ v) := by
  have before : ∀ l ∈ (lexFrom 1 0 (u ++ v)).lexemes, l.stop ≤ 0 + u.length := fun l mem =>
    (Nat.zero_add _).symm ▸ stop_le_of_blanks blank l mem
  have taken := lexFrom_take (List.append_nil _).symm before (List.forall_mem_nil _)
    (by rw [clean]; exact nofun)
  rw [List.take_left] at taken
  rw [taken, ← clean]

theorem tokens_trim (clean : (lexFrom 1 0 cs).fault = none) :
    (lexFrom 1 0 (Text.trim cs)).fault = none ∧
      (lexFrom 1 0 (Text.trim cs)).tokens = (lexFrom 1 0 cs).tokens := by
  obtain ⟨front, behind, whole, blankFront, blankBehind⟩ := Text.exists_trim cs
  generalize Text.trim cs = inner at whole ⊢
  subst whole
  have spaces : ∀ c ∈ front, IsSpace c := fun c mem =>
    isSpace_of_isBlank clean (List.mem_append_left _ mem) (blankFront c mem)
  rw [← List.append_assoc] at clean ⊢
  have cut := lexFrom_blanks_cut clean blankBehind
  -- The blanks in front are a text of their own.
  obtain ⟨none, noFault⟩ := spells_gap spaces 1 0
  have apart : Apart front inner := fun c last d _ =>
    joins_of_isLoose (.inl (spaces c (List.mem_of_getLast? last)).isLoose)
  have noLexeme := List.map_eq_nil_iff.mp none
  rw [← cut] at clean ⊢
  rw [lexFrom_append noFault apart, lexFrom_moved] at clean ⊢
  refine ⟨Option.map_eq_none_iff.mp clean, ?_⟩
  simp [Lexed.tokens, noLexeme, Lexed.moved, Lexeme.moved, Function.comp_def]

end Lexeme

/-! ### What is read -/

namespace Query

variable {text : String} {q : Query}

/-- What was read is read without the blanks around it as the same query. -/
theorem parse_trim (h : parse text = .ok q) : parse (String.ofList (Text.trim text.toList)) = .ok q := by
  rw [parse_eq_ok_iff, lex_eq_lexFrom] at h ⊢
  obtain ⟨clean, d, meant⟩ := h
  obtain ⟨noFault, same⟩ := tokens_trim clean
  rw [String.toList_ofList, same]
  exact ⟨noFault, d, meant⟩

theorem ne_nil_of_parse (h : parse text = .ok q) : text.toList ≠ [] := by
  intro empty
  obtain ⟨_, d, _⟩ := parse_eq_ok_iff.mp h
  refine d.tokens_ne_nil ?_
  rw [lex_eq_lexFrom, empty, lexFrom]
  rfl

/-- No query starts with the sign that is a symbol only inside a bound. -/
theorem head?_ne_hash_of_parse (h : parse text = .ok q) : text.toList.head? ≠ some '#' := by
  intro first
  obtain ⟨cs, whole⟩ := List.head?_eq_some_iff.mp first
  obtain ⟨_, d, _⟩ := parse_eq_ok_iff.mp h
  obtain ⟨s, ran, _⟩ := Reading.reads_derivation d (lex text).lexemes rfl
  have found : longest '#' cs = .ok (.hash, 0) := rfl
  rw [lex_eq_lexFrom, whole, lexFrom_of_longest (by decide) (by decide) found,
    Reading.State.run_cons_refused rfl] at ran
  cases ran

end Query

end TemporalQuery
