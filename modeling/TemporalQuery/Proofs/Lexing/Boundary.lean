import TemporalQuery.Lexeme
import TemporalQuery.Text.Blank
import Mathlib.Data.List.TakeWhile

/-!
# Where tokens end

Two texts that stand `Apart` share no token: lexing the one behind the other gives the lexemes of both
(`lexFrom_append`).
-/

namespace TemporalQuery.Lexeme

/-- The pairs of characters that are one symbol. -/
def pairs : List (Char × Char) :=
  [('=', '>'), ('=', '='), ('!', '='), ('/', '='), ('<', '>'), ('<', '='), ('>', '='), ('&', '&'),
    ('|', '|'), ('[', ']')]

/-- Whether `d` may go on with a token that `c` ends. -/
def joins (c d : Char) : Bool := isWordChar c && isWordChar d || (c, d) ∈ pairs

def Apart (u v : List Char) : Prop := ∀ c ∈ u.getLast?, ∀ d ∈ v.head?, joins c d = false

theorem apart_nil (u : List Char) : Apart u [] := by
  intro c _ d hd
  exact absurd hd nofun

theorem Apart.drop {u v : List Char} (h : Apart u v) (n : Nat) : Apart (u.drop n) v := by
  intro c hc d hd
  refine h c ?_ d hd
  rw [List.getLast?_drop] at hc
  split at hc
  · exact absurd hc nofun
  · exact hc

theorem Apart.tail {c : Char} {u v : List Char} (h : Apart (c :: u) v) : Apart u v := h.drop 1

/-! ### One token -/

theorem isWordChar_lt {c : Char} (h : isWordChar c) : c.toNat < 128 := by
  have shape : isWordChar c = (((decide (65 ≤ c.val ∧ c.val ≤ 90) ||
      (decide (97 ≤ c.val) && decide (c.val ≤ 122))) ||
      (decide (48 ≤ c.val) && decide (c.val ≤ 57))) || decide (c = '.')) := rfl
  simp only [shape, Bool.or_eq_true, Bool.and_eq_true, decide_eq_true_eq] at h
  rcases h with ((⟨_, h⟩ | ⟨_, h⟩) | ⟨_, h⟩) | rfl
  · exact Nat.lt_of_le_of_lt (UInt32.le_iff_toNat_le.mp h) (by decide)
  · exact Nat.lt_of_le_of_lt (UInt32.le_iff_toNat_le.mp h) (by decide)
  · exact Nat.lt_of_le_of_lt (UInt32.le_iff_toNat_le.mp h) (by decide)
  · decide

/-- A character that a word may have is neither blank nor a quote nor part of a symbol. -/
theorem isWordChar_spec {c : Char} (h : isWordChar c) :
    Text.isBlank c = false ∧ c ≠ '\n' ∧ isSkipped c = false ∧ c ≠ '"' ∧ c ≠ '\'' := by
  have all : ∀ n < 128, isWordChar (Char.ofNat n) → Text.isBlank (Char.ofNat n) = false ∧
      Char.ofNat n ≠ '\n' ∧ isSkipped (Char.ofNat n) = false ∧ Char.ofNat n ≠ '"' ∧
      Char.ofNat n ≠ '\'' := by decide +kernel
  have known := all c.toNat (isWordChar_lt h)
  rw [Char.ofNat_toNat] at known
  exact known h

theorem symbol?_cons (c d : Char) (cs : List Char) : symbol? c (d :: cs) = symbol? c [d] := by
  unfold symbol?
  split <;> simp_all

theorem symbol?_apart {c d : Char} (h : joins c d = false) (cs : List Char) :
    symbol? c (d :: cs) = symbol? c [] := by
  unfold symbol?
  split <;> simp_all [joins, pairs]

/-- A symbol of one character is found whatever follows it, so also where nothing does. -/
theorem symbol?_alone {c : Char} {cs : List Char} {t : Token} (h : symbol? c cs = some (t, 0)) :
    symbol? c [] = some (t, 0) := by
  unfold symbol? at h
  split at h <;> cases h <;> rfl

theorem symbol?_extent {c : Char} {cs : List Char} {t : Token} {n : Nat}
    (h : symbol? c cs = some (t, n)) :
    n ≤ cs.length ∧ '\n' ∉ cs.take n ∧ Text.isBlank c = false := by
  unfold symbol? at h
  split at h <;> cases h
  all_goals exact ⟨by simp, by simp, by decide⟩

theorem symbol?_plain {c : Char} {cs : List Char} {r : Token × Nat} (h : symbol? c cs = some r) :
    c ≠ '\n' ∧ isSkipped c = false ∧ ¬(c = '"' ∨ c = '\'') ∧ isWordChar c = false := by
  unfold symbol? at h
  split at h <;> cases h
  all_goals decide

/-- What the longest token that starts with `c` and goes on in `cs` can be. -/
inductive Longest (c : Char) (cs : List Char) : Token → Nat → Prop
  | quoted (quote : c = '"' ∨ c = '\'') (nonempty : cs.takeWhile isWordChar ≠ [])
      (closed : (cs.drop (cs.takeWhile isWordChar).length).head? = some c) :
      Longest c cs (.quoted (String.ofList (cs.takeWhile isWordChar)))
        ((cs.takeWhile isWordChar).length + 1)
  | word {t : Token} (word : isWordChar c) (made : ofWord (c :: cs.takeWhile isWordChar) = .ok t) :
      Longest c cs t (cs.takeWhile isWordChar).length
  | symbol {t : Token} {n : Nat} (found : symbol? c cs = some (t, n)) : Longest c cs t n

theorem longest_eq_ok_iff {c : Char} {cs : List Char} {t : Token} {n : Nat} :
    longest c cs = .ok (t, n) ↔ Longest c cs t n := by
  constructor
  · intro h
    unfold longest at h
    dsimp only at h
    split at h
    · rename_i quote
      unfold Lexeme.quoted at h
      dsimp only at h
      split at h
      · rename_i closed
        obtain ⟨rfl, rfl⟩ := Prod.mk.inj (Except.ok.inj h)
        exact .quoted quote closed.1 closed.2
      · split at h <;> cases h
    · split at h
      · rename_i word
        cases made : ofWord (c :: cs.takeWhile isWordChar) with
        | error fault => simp [made, Except.map] at h
        | ok t' =>
          rw [made] at h
          obtain ⟨rfl, rfl⟩ := Prod.mk.inj (Except.ok.inj h)
          exact .word word made
      · split at h
        · rename_i found
          obtain rfl := Except.ok.inj h
          exact .symbol found
        · cases h
  · intro h
    unfold longest
    cases h with
    | quoted quote nonempty closed =>
      rw [if_pos quote, Lexeme.quoted, if_pos ⟨nonempty, closed⟩]
    | word word made =>
      obtain ⟨_, _, _, noDouble, noSingle⟩ := isWordChar_spec word
      rw [if_neg (not_or.mpr ⟨noDouble, noSingle⟩), if_pos word]
      simp only [made, Except.map]
    | symbol found =>
      obtain ⟨_, _, noQuote, noWord⟩ := symbol?_plain found
      rw [if_neg noQuote, if_neg (by simp [noWord]), found]

theorem takeWhile_isWordChar_append {cs v : List Char}
    (h : cs.takeWhile isWordChar = cs → ∀ d ∈ v.head?, isWordChar d = false) :
    (cs ++ v).takeWhile isWordChar = cs.takeWhile isWordChar := by
  rw [List.takeWhile_append]
  split
  · rename_i whole
    have all : cs.takeWhile isWordChar = cs := (List.takeWhile_prefix _).eq_of_length whole
    cases v with
    | nil => rw [List.takeWhile_nil, List.append_nil, all]
    | cons d ds => rw [List.takeWhile_cons_of_neg (by simp [h all d rfl]), List.append_nil, all]
  · rfl

theorem Longest.append {c : Char} {cs v : List Char} {t : Token} {n : Nat} (h : Longest c cs t n)
    (apart : Apart (c :: cs) v) : Longest c (cs ++ v) t n := by
  cases h with
  | quoted quote nonempty closed =>
    -- The closing quote stands in `cs`, so the word ends there whatever follows.
    have within : (cs ++ v).takeWhile isWordChar = cs.takeWhile isWordChar := by
      refine takeWhile_isWordChar_append fun all => ?_
      rw [all, List.drop_length] at closed
      cases closed
    have length : (cs.takeWhile isWordChar).length ≤ cs.length := (List.takeWhile_prefix _).length_le
    rw [← within] at nonempty ⊢
    refine .quoted quote nonempty ?_
    rw [within, List.drop_append_of_le_length length, List.head?_append, closed, Option.some_or]
  | word word made =>
    have within : (cs ++ v).takeWhile isWordChar = cs.takeWhile isWordChar := by
      refine takeWhile_isWordChar_append fun all d hd => ?_
      have words : ∀ e ∈ c :: cs, isWordChar e := by
        rw [List.forall_mem_cons]
        exact ⟨word, List.takeWhile_eq_self_iff.mp all⟩
      have last := List.getLast?_eq_some_getLast (List.cons_ne_nil c cs)
      have separate := apart _ last d hd
      rw [joins, words _ (List.getLast_mem _), Bool.true_and, Bool.or_eq_false_iff] at separate
      exact separate.1
    rw [← within] at made ⊢
    exact .word word made
  | symbol found =>
    have same : symbol? c (cs ++ v) = symbol? c cs := by
      cases cs with
      | cons d ds => rw [List.cons_append, symbol?_cons, symbol?_cons c d ds]
      | nil =>
        cases v with
        | nil => rfl
        | cons d ds => exact symbol?_apart (apart c rfl d rfl) ds
    exact .symbol (same.trans found)

/-- What stands behind the longest token has no part in it. -/
theorem Longest.of_append {c : Char} {cs v : List Char} {t : Token} {n : Nat}
    (h : Longest c (cs ++ v) t n) (inside : n ≤ cs.length) : Longest c cs t n := by
  -- A word that `cs` is all of goes on in `v` unless it is longer than `cs`.
  have word (short : ((cs ++ v).takeWhile isWordChar).length ≤ cs.length) :
      (cs ++ v).takeWhile isWordChar = cs.takeWhile isWordChar := by
    rw [List.takeWhile_append] at short ⊢
    split at short
    · rename_i whole
      have all : cs.takeWhile isWordChar = cs := (List.takeWhile_prefix _).eq_of_length whole
      rw [List.length_append] at short
      have none : v.takeWhile isWordChar = [] := List.eq_nil_of_length_eq_zero (by omega)
      rw [if_pos whole, none, List.append_nil, all]
    · rename_i part
      rw [if_neg part]
  cases h with
  | quoted quote nonempty closed =>
    have within := word (Nat.le_of_succ_le inside)
    rw [within] at nonempty closed inside ⊢
    refine .quoted quote nonempty ?_
    rwa [List.head?_drop, List.getElem?_append_left inside, ← List.head?_drop] at closed
  | word wordChar made =>
    rw [word inside] at made ⊢
    exact .word wordChar made
  | symbol found =>
    cases cs with
    | cons d ds => exact .symbol (by rwa [List.cons_append, symbol?_cons, ← symbol?_cons c d ds] at found)
    | nil =>
      obtain rfl : n = 0 := Nat.le_zero.mp inside
      exact .symbol (symbol?_alone found)

theorem take_length_takeWhile (cs : List Char) :
    cs.take (cs.takeWhile isWordChar).length = cs.takeWhile isWordChar :=
  (List.prefix_iff_eq_take.mp (List.takeWhile_prefix _)).symm

theorem newline_notMem_takeWhile (cs : List Char) : '\n' ∉ cs.takeWhile isWordChar := fun mem =>
  (isWordChar_spec (List.mem_takeWhile_imp mem)).2.1 rfl

theorem Longest.extent {c : Char} {cs : List Char} {t : Token} {n : Nat} (h : Longest c cs t n) :
    n ≤ cs.length ∧ '\n' ∉ cs.take n ∧ Text.isBlank c = false := by
  cases h with
  | quoted quote nonempty closed =>
    have notNewline : '\n' ≠ c := by rcases quote with rfl | rfl <;> decide
    have notBlank : Text.isBlank c = false := by rcases quote with rfl | rfl <;> decide
    rw [List.head?_drop] at closed
    have inside : (cs.takeWhile isWordChar).length < cs.length :=
      (List.getElem?_eq_some_iff.mp closed).1
    refine ⟨inside, ?_, notBlank⟩
    rw [List.take_add_one, take_length_takeWhile, closed, List.mem_append, not_or]
    exact ⟨newline_notMem_takeWhile cs, by simpa using notNewline⟩
  | word word made =>
    rw [take_length_takeWhile]
    exact ⟨(List.takeWhile_prefix _).length_le, newline_notMem_takeWhile cs, (isWordChar_spec word).1⟩
  | symbol found => exact symbol?_extent found

/-! ### A whole text -/

theorem lexFrom_append {u v : List Char} {line : Int} {start : Nat}
    (clean : (lexFrom line start u).fault = none) (apart : Apart u v) :
    lexFrom line start (u ++ v) =
      let rest := lexFrom (line + u.count '\n') (start + u.length) v
      ⟨(lexFrom line start u).lexemes ++ rest.lexemes, rest.fault⟩ := by
  -- Along `u`; only its last character has to stand apart, and each rest of `u` has the same one.
  fun_induction lexFrom line start u with
  | case1 line start => simp
  | case2 line start cs ih =>
    rw [List.cons_append, lexFrom, if_pos rfl, ih clean apart.tail]
    simp only [List.count_cons_self, List.length_cons]
    rw [show line + 1 + (cs.count '\n' : Int) = line + ((cs.count '\n' + 1 : Nat) : Int) by omega,
      show start + 1 + cs.length = start + (cs.length + 1) by omega]
  | case3 line start c cs noNewline skipped ih =>
    rw [List.cons_append, lexFrom, if_neg noNewline, if_pos skipped, ih clean apart.tail]
    simp only [List.count_cons_of_ne noNewline, List.length_cons]
    rw [show start + 1 + cs.length = start + (cs.length + 1) by omega]
  | case4 => exact absurd clean nofun
  | case5 line start c cs noNewline notSkipped token taken found stop rest ih =>
    have longer : longest c (cs ++ v) = .ok (token, taken) :=
      longest_eq_ok_iff.mpr ((longest_eq_ok_iff.mp found).append apart)
    obtain ⟨length, noneTaken, _⟩ := (longest_eq_ok_iff.mp found).extent
    have lines : (c :: cs).count '\n' = (cs.drop taken).count '\n' := by
      have parts : (cs.take taken ++ cs.drop taken).count '\n' = (cs.drop taken).count '\n' := by
        rw [List.count_append, List.count_eq_zero_of_not_mem noneTaken, Nat.zero_add]
      rw [List.count_cons_of_ne noNewline, ← parts, List.take_append_drop]
    have offsets : stop + (cs.drop taken).length = start + (c :: cs).length := by
      simp only [stop, List.length_drop, List.length_cons]
      omega
    rw [List.cons_append, lexFrom, if_neg noNewline, if_neg notSkipped, longer]
    dsimp only
    rw [List.drop_append_of_le_length length, ih clean (apart.tail.drop taken), lines, ← offsets]
    rfl

theorem lexFrom_blank {cs : List Char} {line : Int} {start : Nat} (blank : cs.all Text.isBlank) :
    (lexFrom line start cs).lexemes = [] := by
  fun_induction lexFrom line start cs with
  | case1 line start => rfl
  | case2 line start cs ih =>
    rw [List.all_cons, Bool.and_eq_true] at blank
    exact ih blank.2
  | case3 line start c cs noNewline skipped ih =>
    rw [List.all_cons, Bool.and_eq_true] at blank
    exact ih blank.2
  | case4 => rfl
  | case5 line start c cs noNewline notSkipped token taken found stop rest ih =>
    rw [List.all_cons, Bool.and_eq_true, ((longest_eq_ok_iff.mp found).extent).2.2] at blank
    exact absurd blank.1 nofun

end TemporalQuery.Lexeme
