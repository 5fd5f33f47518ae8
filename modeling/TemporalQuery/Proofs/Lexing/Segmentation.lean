import TemporalQuery.Failure
import TemporalQuery.Proofs.Lexing.Cut

/-!
# Longest spellings

`Spelling` says, apart from the lexer, which texts are tokens. The lexer cuts a text into spaces and
longest spellings, and stops only where no token starts or where the longest one is a number too large
(`lex_segments`).
-/

namespace TemporalQuery

open Lexeme

/-- All symbols, each with the token that it is. -/
def Token.symbols : List (List Char × Token) :=
  [(['=', '>'], connective .implication "=>"),
    (['&'], connective .conjunction "&"), (['&', '&'], connective .conjunction "&&"),
    (['|'], connective .disjunction "|"), (['|', '|'], connective .disjunction "||"),
    (['!'], unary .negation "!"),
    (['='], relation .eq "="), (['=', '='], relation .eq "=="),
    (['!', '='], relation .ne "!="), (['/', '='], relation .ne "/="),
    (['<'], relation .lt "<"), (['<', '='], relation .le "<="),
    (['>'], relation .gt ">"), (['>', '='], relation .ge ">="),
    (['<', '>'], modality .eventually "<>"), (['[', ']'], modality .globally "[]"),
    (['+'], arith .add), (['-'], arith .subtract), (['*'], arith .multiply), (['%'], arith .modulo),
    (['^'], arith .power),
    (['('], openParen), ([')'], closeParen), (['['], openBracket), ([']'], closeBracket), (['#'], hash)]

/-- The text is a symbol, a word, or a word between two quotes of one sort, and means what is said. -/
inductive Spelling : List Char → Except LexFault Token → Prop
  | symbol {w : List Char} {t : Token} (listed : (w, t) ∈ Token.symbols) : Spelling w (.ok t)
  | word {w : List Char} (nonempty : w ≠ []) (chars : ∀ c ∈ w, isWordChar c) : Spelling w (ofWord w)
  | quoted {q : Char} {w : List Char} (quote : q = '"' ∨ q = '\'') (nonempty : w ≠ [])
      (chars : ∀ c ∈ w, isWordChar c) :
      Spelling (q :: (w ++ [q])) (.ok (.quoted (String.ofList w)))

/-- Of the spellings that `cs` starts with, `w` is the longest. -/
structure LongestSpelling (cs w : List Char) (r : Except LexFault Token) : Prop where
  spelling : Spelling w r
  leading : w <+: cs
  longest : ∀ v r', Spelling v r' → v <+: cs → v.length ≤ w.length

/-- No token starts here, or only a number that is too large. -/
inductive Unlexable (cs : List Char) (fault : LexFault) : Prop
  | unspelled (kind : fault.kind = .lexer) (none : ∀ w r, Spelling w r → ¬ w <+: cs) :
      Unlexable cs fault
  | tooLarge {w : List Char} (kind : fault.kind = .literalRange)
      (longest : LongestSpelling cs w (.error fault)) (digits : ∀ c ∈ w, c.isDigit)
      (large : maxInt < decimal w) : Unlexable cs fault

/-! ### One spelling -/

theorem Token.exists_cons_of_mem_symbols {w : List Char} {t : Token} (h : (w, t) ∈ symbols) :
    ∃ c cs, w = c :: cs ∧ isWordChar c = false ∧ ¬(c = '"' ∨ c = '\'') := by
  have heads : symbols.all (fun r => r.1.head?.any fun c =>
      !isWordChar c && decide ¬(c = '"' ∨ c = '\'')) = true := by decide
  have head := List.all_eq_true.mp heads _ h
  cases w with
  | nil => cases head
  | cons c cs => exact ⟨c, cs, rfl, by simpa using head⟩

theorem Token.eq_of_mem_symbols {w : List Char} {t t' : Token} (h : (w, t) ∈ symbols)
    (h' : (w, t') ∈ symbols) : t = t' := by
  have distinct : ∀ r ∈ symbols, ∀ r' ∈ symbols, r.1 = r'.1 → r.2 = r'.2 := by decide +kernel
  exact distinct _ h _ h' rfl

theorem Token.symbol?_of_mem_symbols {c : Char} {cs : List Char} {t : Token}
    (h : (c :: cs, t) ∈ symbols) : symbol? c cs = some (t, cs.length) ∧ cs.length ≤ 1 := by
  have known : symbols.all (fun r => r.1.head?.all fun c =>
      decide (symbol? c r.1.tail = some (r.2, r.1.tail.length) ∧ r.1.tail.length ≤ 1)) = true := by
    decide
  have found := List.all_eq_true.mp known _ h
  exact of_decide_eq_true found

namespace Spelling

variable {c : Char} {cs : List Char} {r r' : Except LexFault Token}

theorem ne_nil (h : Spelling cs r) : cs ≠ [] := by
  cases h with
  | symbol listed =>
    obtain ⟨c, cs, rfl, _⟩ := Token.exists_cons_of_mem_symbols listed
    exact List.cons_ne_nil c cs
  | word nonempty => exact nonempty
  | quoted => exact List.cons_ne_nil _ _

theorem of_isWordChar (h : Spelling (c :: cs) r) (word : isWordChar c) :
    (∀ d ∈ cs, isWordChar d) ∧ r = ofWord (c :: cs) := by
  cases h with
  | symbol listed =>
    obtain ⟨_, _, same, notWord, _⟩ := Token.exists_cons_of_mem_symbols listed
    rw [(List.cons.inj same).1, notWord] at word
    cases word
  | word _ chars => exact ⟨(List.forall_mem_cons.mp chars).2, rfl⟩
  | quoted quote =>
    obtain ⟨_, _, _, noDouble, noSingle⟩ := isWordChar_spec word
    exact absurd quote (not_or.mpr ⟨noDouble, noSingle⟩)

theorem of_quote (h : Spelling (c :: cs) r) (quote : c = '"' ∨ c = '\'') :
    ∃ w, cs = w ++ [c] ∧ w ≠ [] ∧ (∀ d ∈ w, isWordChar d) ∧ r = .ok (.quoted (String.ofList w)) := by
  cases h with
  | symbol listed =>
    obtain ⟨_, _, same, _, notQuote⟩ := Token.exists_cons_of_mem_symbols listed
    rw [(List.cons.inj same).1] at quote
    exact absurd quote notQuote
  | word _ chars =>
    obtain ⟨_, _, _, noDouble, noSingle⟩ := isWordChar_spec (List.forall_mem_cons.mp chars).1
    exact absurd quote (not_or.mpr ⟨noDouble, noSingle⟩)
  | quoted _ nonempty chars => exact ⟨_, rfl, nonempty, chars, rfl⟩

theorem of_other (h : Spelling (c :: cs) r) (notWord : isWordChar c = false)
    (notQuote : ¬(c = '"' ∨ c = '\'')) : ∃ t, (c :: cs, t) ∈ Token.symbols ∧ r = .ok t := by
  cases h with
  | symbol listed => exact ⟨_, listed, rfl⟩
  | word _ chars =>
    rw [(List.forall_mem_cons.mp chars).1] at notWord
    cases notWord
  | quoted quote => exact absurd quote notQuote

/-- A spelling has one meaning. -/
theorem unique (h : Spelling cs r) (h' : Spelling cs r') : r = r' := by
  cases cs with
  | nil => exact absurd rfl h.ne_nil
  | cons c cs =>
    by_cases word : isWordChar c
    · rw [(h.of_isWordChar word).2, (h'.of_isWordChar word).2]
    · by_cases quote : c = '"' ∨ c = '\''
      · obtain ⟨w, rfl, _, _, rfl⟩ := h.of_quote quote
        obtain ⟨w', same, _, _, rfl⟩ := h'.of_quote quote
        rw [List.append_cancel_right same]
      · obtain ⟨t, listed, rfl⟩ := h.of_other (by simpa using word) quote
        obtain ⟨t', listed', rfl⟩ := h'.of_other (by simpa using word) quote
        rw [Token.eq_of_mem_symbols listed listed']

/-- A spelling is lexed to what it means. -/
theorem spells {w : List Char} {t : Token} (h : Spelling w (.ok t)) : Spells w [t] := by
  generalize meaning : Except.ok t = r at h
  cases h with
  | symbol listed =>
    obtain rfl := Except.ok.inj meaning
    obtain ⟨c, cs, rfl, _⟩ := Token.exists_cons_of_mem_symbols listed
    exact spells_symbol (Token.symbol?_of_mem_symbols listed).1
  | word nonempty chars => exact spells_word nonempty chars meaning.symm
  | quoted quote nonempty chars =>
    obtain rfl := Except.ok.inj meaning
    exact spells_quoted quote nonempty chars

end Spelling

/-! ### The longest spelling at a place -/

section

variable {c : Char} {cs : List Char} {t : Token} {n : Nat} {fault : LexFault}

theorem length_le_takeWhile {v : List Char} (leading : v <+: cs) (chars : ∀ d ∈ v, isWordChar d) :
    v.length ≤ (cs.takeWhile isWordChar).length := by
  obtain ⟨rest, rfl⟩ := leading
  rw [List.takeWhile_append_of_pos chars, List.length_append]
  exact Nat.le_add_right _ _

theorem longestSpelling_word (word : isWordChar c) :
    LongestSpelling (c :: cs) (c :: cs.takeWhile isWordChar) (ofWord (c :: cs.takeWhile isWordChar)) where
  spelling := .word (List.cons_ne_nil _ _)
    (List.forall_mem_cons.mpr ⟨word, fun _ => List.mem_takeWhile_imp⟩)
  leading := List.cons_prefix_cons.mpr ⟨rfl, List.takeWhile_prefix _⟩
  longest v r spelling leading := by
    obtain rfl | ⟨v, rfl, behind⟩ := List.prefix_cons_iff.mp leading
    · exact absurd rfl spelling.ne_nil
    · exact Nat.succ_le_succ (length_le_takeWhile behind (spelling.of_isWordChar word).1)

/-- What stands between quotes is all that a word can be there. -/
theorem takeWhile_of_quoted {w : List Char} (chars : ∀ d ∈ w, isWordChar d)
    (notWord : isWordChar c = false) (leading : w ++ [c] <+: cs) :
    cs.takeWhile isWordChar = w ∧ (cs.drop w.length).head? = some c := by
  obtain ⟨rest, rfl⟩ := leading
  rw [List.append_assoc, List.takeWhile_append_of_pos chars, List.singleton_append,
    List.takeWhile_cons_of_neg (by simp [notWord]), List.append_nil, List.drop_left]
  exact ⟨rfl, rfl⟩

theorem Spelling.closed {v : List Char} {r : Except LexFault Token} (h : Spelling v r)
    (quote : c = '"' ∨ c = '\'') (leading : v <+: c :: cs) :
    cs.takeWhile isWordChar ≠ [] ∧ (cs.drop (cs.takeWhile isWordChar).length).head? = some c ∧
      v.length = (cs.takeWhile isWordChar).length + 2 := by
  obtain rfl | ⟨v, rfl, behind⟩ := List.prefix_cons_iff.mp leading
  · exact absurd rfl h.ne_nil
  · obtain ⟨w, rfl, nonempty, chars, _⟩ := h.of_quote quote
    obtain ⟨word, closed⟩ := takeWhile_of_quoted chars (not_isWordChar_quote quote) behind
    rw [word]
    exact ⟨nonempty, closed, by simp⟩

theorem take_of_closed (closed : (cs.drop (cs.takeWhile isWordChar).length).head? = some c) :
    cs.take ((cs.takeWhile isWordChar).length + 1) = cs.takeWhile isWordChar ++ [c] := by
  rw [List.head?_drop] at closed
  rw [List.take_add_one, take_length_takeWhile, closed, Option.toList_some]

theorem longestSpelling_quoted (quote : c = '"' ∨ c = '\'') (nonempty : cs.takeWhile isWordChar ≠ [])
    (closed : (cs.drop (cs.takeWhile isWordChar).length).head? = some c) :
    LongestSpelling (c :: cs) (c :: cs.take ((cs.takeWhile isWordChar).length + 1))
      (.ok (.quoted (String.ofList (cs.takeWhile isWordChar)))) where
  spelling := by
    rw [take_of_closed closed]
    exact .quoted quote nonempty fun _ => List.mem_takeWhile_imp
  leading := List.cons_prefix_cons.mpr ⟨rfl, List.take_prefix _ _⟩
  longest v r spelling leading := by
    have length := (spelling.closed quote leading).2.2
    rw [take_of_closed closed]
    simp [length]

theorem mem_symbols_of_symbol? (found : symbol? c cs = some (t, n)) :
    (c :: cs.take n, t) ∈ Token.symbols := by
  unfold symbol? at found
  split at found <;> cases found
  all_goals simp [Token.symbols]

/-- What starts a symbol alone does so whatever follows. -/
theorem symbol?_isSome (h : (symbol? c []).isSome) (cs : List Char) : (symbol? c cs).isSome := by
  unfold symbol? at h ⊢
  split <;> simp_all

/-- A symbol that stands in front is found, or a longer one. -/
theorem exists_symbol? {w : List Char} (listed : (c :: w, t) ∈ Token.symbols) (leading : w <+: cs) :
    ∃ t' n, symbol? c cs = some (t', n) ∧ w.length ≤ n := by
  obtain ⟨found, short⟩ := Token.symbol?_of_mem_symbols listed
  cases w with
  | nil =>
    have starts := Option.isSome_of_eq_some found
    obtain ⟨⟨t', n⟩, found'⟩ := Option.isSome_iff_exists.mp (symbol?_isSome starts cs)
    exact ⟨t', n, found', Nat.zero_le n⟩
  | cons d w =>
    obtain rfl : w = [] := List.eq_nil_of_length_eq_zero (by simpa using short)
    obtain ⟨rest, rfl⟩ := leading
    exact ⟨t, 1, (symbol?_cons c d rest).trans found, Nat.le_refl 1⟩

theorem longestSpelling_symbol (found : symbol? c cs = some (t, n)) :
    LongestSpelling (c :: cs) (c :: cs.take n) (.ok t) where
  spelling := .symbol (mem_symbols_of_symbol? found)
  leading := List.cons_prefix_cons.mpr ⟨rfl, List.take_prefix n cs⟩
  longest v r spelling leading := by
    obtain ⟨_, _, notQuote, notWord⟩ := symbol?_plain found
    obtain rfl | ⟨v, rfl, behind⟩ := List.prefix_cons_iff.mp leading
    · exact absurd rfl spelling.ne_nil
    · obtain ⟨t', listed, _⟩ := spelling.of_other notWord notQuote
      obtain ⟨_, m, found', length⟩ := exists_symbol? listed behind
      rw [found] at found'
      obtain ⟨_, rfl⟩ := Prod.mk.inj (Option.some.inj found')
      have inside := (symbol?_extent found).1
      rw [List.length_cons, List.length_cons, List.length_take_of_le inside]
      exact Nat.succ_le_succ length

theorem longestSpelling_of_longest (h : longest c cs = .ok (t, n)) :
    LongestSpelling (c :: cs) (c :: cs.take n) (.ok t) := by
  cases longest_eq_ok_iff.mp h with
  | quoted quote nonempty closed => exact longestSpelling_quoted quote nonempty closed
  | word word made =>
    rw [take_length_takeWhile, ← made]
    exact longestSpelling_word word
  | symbol found => exact longestSpelling_symbol found

theorem Spelling.of_longest (h : longest c cs = .ok (t, cs.length)) : Spelling (c :: cs) (.ok t) := by
  have whole := (longestSpelling_of_longest h).spelling
  rwa [List.take_length] at whole

theorem ofWord_eq_error {w : List Char} (h : ofWord w = .error fault) :
    (∀ c ∈ w, c.isDigit) ∧ maxInt < decimal w ∧ fault.kind = .literalRange := by
  unfold ofWord at h
  split at h
  · rename_i digits
    split at h
    · cases h
    · rename_i large
      obtain rfl := Except.error.inj h
      exact ⟨List.all_eq_true.mp digits, Nat.lt_of_not_le large, rfl⟩
  · cases h

theorem kind_of_quoted_error (h : Lexeme.quoted c cs = .error fault) :
    fault.kind = .lexer ∧ ¬(cs.takeWhile isWordChar ≠ [] ∧
      (cs.drop (cs.takeWhile isWordChar).length).head? = some c) := by
  unfold Lexeme.quoted at h
  dsimp only at h
  split at h
  · cases h
  · rename_i unclosed
    split at h
    · obtain rfl := Except.error.inj h
      exact ⟨rfl, unclosed⟩
    · obtain rfl := Except.error.inj h
      exact ⟨rfl, unclosed⟩

theorem unlexable_of_longest (h : longest c cs = .error fault) : Unlexable (c :: cs) fault := by
  unfold longest at h
  dsimp only at h
  split at h
  · rename_i quote
    obtain ⟨kind, unclosed⟩ := kind_of_quoted_error h
    refine .unspelled kind fun w r spelling leading => unclosed ?_
    obtain ⟨nonempty, closed, _⟩ := spelling.closed quote leading
    exact ⟨nonempty, closed⟩
  · rename_i notQuote
    split at h
    · rename_i word
      cases made : ofWord (c :: cs.takeWhile isWordChar) with
      | ok t => simp [made, Except.map] at h
      | error fault' =>
        rw [made] at h
        obtain rfl := Except.error.inj h
        obtain ⟨digits, large, kind⟩ := ofWord_eq_error made
        exact .tooLarge kind (made ▸ longestSpelling_word word) digits large
    · rename_i notWord
      split at h
      · cases h
      · rename_i missing
        obtain rfl := Except.error.inj h
        refine .unspelled rfl fun w r spelling leading => ?_
        obtain rfl | ⟨w, rfl, behind⟩ := List.prefix_cons_iff.mp leading
        · exact spelling.ne_nil rfl
        · obtain ⟨t, listed, _⟩ := spelling.of_other (by simpa using notWord) notQuote
          obtain ⟨_, _, found, _⟩ := exists_symbol? listed behind
          cases missing.symm.trans found

end

/-! ### A whole text -/

/-- The characters that may stand between lexemes. -/
def IsSpace (c : Char) : Prop := c = ' ' ∨ c = '\t' ∨ c = '\r' ∨ c = '\n'

instance : DecidablePred IsSpace := fun c =>
  inferInstanceAs (Decidable (c = ' ' ∨ c = '\t' ∨ c = '\r' ∨ c = '\n'))

/-- What stands from `start` on is lexemes, each the longest spelling at its place, and spaces. -/
structure Lexed.Segments (lexed : Lexed) (whole : List Char) (start : Nat) : Prop where
  spelled : ∀ l ∈ lexed.lexemes,
    LongestSpelling (whole.drop l.start) (whole.extract l.start l.stop) (.ok l.token)
  between : lexed.fault = none → ∀ i c, start ≤ i → whole[i]? = some c →
    (∀ l ∈ lexed.lexemes, i < l.start ∨ l.stop ≤ i) → IsSpace c
  fault : ∀ r ∈ lexed.fault, Unlexable (whole.drop r.2) r.1

theorem Lexed.Segments.of_space {lexed : Lexed} {whole : List Char} {start : Nat} {c : Char}
    (h : lexed.Segments whole (start + 1)) (here : whole[start]? = some c) (space : IsSpace c) :
    lexed.Segments whole start where
  spelled := h.spelled
  between clean i d behind found outside := by
    rcases Nat.eq_or_lt_of_le behind with rfl | further
    · obtain rfl := Option.some.inj (here.symm.trans found)
      exact space
    · exact h.between clean i d further found outside
  fault := h.fault

theorem Lexed.Segments.cons {lexed : Lexed} {whole : List Char} {l : Lexeme}
    (h : lexed.Segments whole l.stop)
    (spelled : LongestSpelling (whole.drop l.start) (whole.extract l.start l.stop) (.ok l.token)) :
    Segments ⟨l :: lexed.lexemes, lexed.fault⟩ whole l.start where
  spelled := List.forall_mem_cons.mpr ⟨spelled, h.spelled⟩
  between clean i c behind found outside := by
    obtain ⟨outer, outside⟩ := List.forall_mem_cons.mp outside
    exact h.between clean i c (by omega) found outside
  fault := h.fault

section

variable {whole cs : List Char} {c : Char} {start : Nat}

theorem getElem?_of_drop (here : whole.drop start = c :: cs) : whole[start]? = some c := by
  rw [← List.head?_drop, here]
  rfl

theorem drop_of_drop (here : whole.drop start = c :: cs) (n : Nat) :
    whole.drop (start + n + 1) = cs.drop n := by
  rw [Nat.add_assoc, ← List.drop_drop, here, List.drop_succ_cons]

theorem Lexeme.segments_lexFrom {line : Int} (here : whole.drop start = cs) :
    (lexFrom line start cs).Segments whole start := by
  fun_induction lexFrom line start cs with
  | case1 line start =>
    refine ⟨by simp, fun _ i c behind found _ => ?_, by simp⟩
    have ended := List.drop_eq_nil_iff.mp here
    have inside := (List.getElem?_eq_some_iff.mp found).1
    omega
  | case2 line start cs ih =>
    exact (ih (drop_of_drop here 0)).of_space (getElem?_of_drop here) (.inr (.inr (.inr rfl)))
  | case3 line start c cs noNewline skipped ih =>
    refine (ih (drop_of_drop here 0)).of_space (getElem?_of_drop here) ?_
    simp only [isSkipped, Bool.or_eq_true, decide_eq_true_eq] at skipped
    rcases skipped with (rfl | rfl) | rfl
    · exact .inl rfl
    · exact .inr (.inl rfl)
    · exact .inr (.inr (.inl rfl))
  | case4 line start c cs noNewline notSkipped fault found =>
    refine ⟨by simp, by simp, fun r same => ?_⟩
    obtain rfl := Option.some.inj same
    rw [here]
    exact unlexable_of_longest found
  | case5 line start c cs noNewline notSkipped token taken found stop rest ih =>
    refine Lexed.Segments.cons (l := ⟨token, line, start, stop⟩) (ih (drop_of_drop here taken)) ?_
    have length : stop - start = taken + 1 := by
      simp only [stop]
      omega
    rw [List.extract_eq_take_drop, here, length, List.take_succ_cons]
    exact longestSpelling_of_longest found

end

/-- The lexemes stand in order without overlap, each the longest spelling at its place, and nothing but
space is left out. -/
structure Segmentation (text : String) (ls : List Lexeme) : Prop where
  within : ∀ l ∈ ls, l.start < l.stop ∧ l.stop ≤ text.length
  sorted : ls.Pairwise fun l m => l.stop ≤ m.start
  between : ∀ i c, text.toList[i]? = some c → (∀ l ∈ ls, i < l.start ∨ l.stop ≤ i) → IsSpace c
  spelled : ∀ l ∈ ls,
    LongestSpelling (text.toList.drop l.start) (text.toList.extract l.start l.stop) (.ok l.token)

/-- A text without fault is cut into longest spellings, which alone say what the tokens are. Up to a fault
the text is lexed as if it ended there, and at the fault no token starts or one too large. -/
theorem lex_segments :
    (∀ w r r', Spelling w r → Spelling w r' → r = r') ∧
    ∀ text, match (lex text).fault with
      | none => Segmentation text (lex text).lexemes
      | some (fault, index) =>
        lex (Text.before text index) = ⟨(lex text).lexemes, none⟩ ∧
          Unlexable (text.toList.drop index) fault := by
  refine ⟨fun w r r' h h' => h.unique h', fun text => ?_⟩
  have ordered := ordered_lex text
  have segments : (lex text).Segments text.toList 0 := segments_lexFrom rfl
  split
  · rename_i clean
    exact {
      within := fun l mem => (ordered.within l mem).2
      sorted := ordered.sorted
      between := fun i c => segments.between clean i c (Nat.zero_le i)
      spelled := segments.spelled }
  · rename_i fault index found
    exact ⟨lex_before_fault found, segments.fault _ found⟩

end TemporalQuery
