import TemporalQuery.Proofs.Lexing.Spelling

/-!
# What the lexer makes

Every token of a lexed text is the longest one at its place (`exists_longest_of_mem_lexFrom`), so it can
be written again: its name is a word, its integer is in range (`writable_of_mem_lexFrom`), its spelling
says what it means (`faithful_of_mem_lexFrom`), and some text is lexed to it alone
(`spelled_of_mem_lexFrom`). Such tokens have a text in any order (`exists_lex_iff`).
-/

namespace TemporalQuery

def Token.Writable : Token → Prop
  | int n => n ≤ maxInt
  | ident x | quoted x | quantifier _ x => Identifier.IsWord x
  | _ => True

theorem Token.Writable.isWord {t : Token} (h : t.Writable) {x : String} (name : t.name? = some x) :
    Identifier.IsWord x := by
  cases t with
  | ident y | quoted y | quantifier _ y =>
    obtain rfl := Option.some.inj name
    exact h
  | modality m y =>
    obtain ⟨symbol, found⟩ := Option.ite_none_right_eq_some.mp name
    obtain rfl := Option.some.inj found
    rw [symbol]
    cases m <;> exact .of_check rfl
  | _ => simp [Token.name?] at name

theorem Token.writable_keyword? {x : String} {t : Token} (h : keyword? x = some t)
    (word : Identifier.IsWord x) : t.Writable := by
  obtain ⟨make, known, rfl⟩ := exists_of_keyword? h
  simp only [exactKeywords, foldedKeywords, List.mem_cons, List.not_mem_nil, or_false,
    Prod.mk.injEq] at known
  rcases known with known | known
  · rcases known with ⟨_, rfl⟩ | ⟨_, rfl⟩ | ⟨_, rfl⟩ | ⟨_, rfl⟩
    · exact word
    · exact word
    · trivial
    · trivial
  · rcases known with ⟨_, rfl⟩ | ⟨_, rfl⟩ | ⟨_, rfl⟩ | ⟨_, rfl⟩ | ⟨_, rfl⟩ | ⟨_, rfl⟩ | ⟨_, rfl⟩ |
      ⟨_, rfl⟩ | ⟨_, rfl⟩ | ⟨_, rfl⟩ <;> trivial

namespace Lexeme

theorem isWord_ofList {w : List Char} (nonempty : w ≠ []) (word : ∀ c ∈ w, isWordChar c) :
    Identifier.IsWord (String.ofList w) := by
  constructor
  · rwa [String.toList_ofList]
  · rwa [String.toList_ofList]

theorem writable_ofWord {w : List Char} {t : Token} (nonempty : w ≠ [])
    (word : ∀ c ∈ w, isWordChar c) (h : ofWord w = .ok t) : t.Writable := by
  unfold ofWord at h
  split at h
  · split at h
    · rename_i small
      obtain rfl := Except.ok.inj h
      exact small
    · exact absurd h nofun
  · obtain rfl := Except.ok.inj h
    have isWord := isWord_ofList nonempty word
    cases found : Token.keyword? (String.ofList w) with
    | none => exact isWord
    | some t => exact Token.writable_keyword? found isWord

theorem writable_symbol? {c : Char} {cs : List Char} {t : Token} {n : Nat}
    (h : symbol? c cs = some (t, n)) : t.Writable := by
  unfold symbol? at h
  split at h <;> cases h <;> trivial

theorem Longest.writable {c : Char} {cs : List Char} {t : Token} {n : Nat} (h : Longest c cs t n) :
    t.Writable := by
  have words : ∀ d ∈ cs.takeWhile isWordChar, isWordChar d := fun d => List.mem_takeWhile_imp
  cases h with
  | quoted quote nonempty closed => exact isWord_ofList nonempty words
  | word word made =>
    exact writable_ofWord (List.cons_ne_nil _ _) (List.forall_mem_cons.mpr ⟨word, words⟩) made
  | symbol found => exact writable_symbol? found

theorem exists_longest_of_mem_lexFrom {cs : List Char} {line : Int} {start : Nat} {t : Token}
    (mem : t ∈ (lexFrom line start cs).tokens) :
    ∃ c cs n, c ≠ '\n' ∧ isSkipped c = false ∧ Longest c cs t n := by
  fun_induction lexFrom line start cs with
  | case1 line start => cases mem
  | case2 line start cs ih => exact ih mem
  | case3 line start c cs noNewline skipped ih => exact ih mem
  | case4 => cases mem
  | case5 line start c cs noNewline notSkipped token taken found stop rest ih =>
    rw [Lexed.tokens, List.map_cons] at mem
    rcases List.mem_cons.mp mem with rfl | mem
    · exact ⟨c, cs, taken, noNewline, by simpa using notSkipped, longest_eq_ok_iff.mp found⟩
    · exact ih mem

theorem writable_of_mem_lexFrom {cs : List Char} {line : Int} {start : Nat} :
    ∀ t ∈ (lexFrom line start cs).tokens, t.Writable := by
  intro t mem
  obtain ⟨c, cs, n, _, _, longest⟩ := exists_longest_of_mem_lexFrom mem
  exact longest.writable

end Lexeme

/-! ### Spellings -/

/-- The spelling says what the token means. -/
def Token.Faithful : Token → Prop
  | quantifier k s => fold s = fold k.symbol
  | relation op s => RelOp.ofSymbol? s = some op
  | _ => True

theorem Token.faithful_keyword? {x : String} {t : Token} (h : keyword? x = some t) : t.Faithful := by
  obtain ⟨make, known, rfl⟩ := exists_of_keyword? h
  simp only [exactKeywords, foldedKeywords, List.mem_cons, List.not_mem_nil, or_false,
    Prod.mk.injEq] at known
  rcases known with known | known
  · rcases known with ⟨rfl, rfl⟩ | ⟨rfl, rfl⟩ | ⟨rfl, rfl⟩ | ⟨rfl, rfl⟩
    · rfl
    · rfl
    · trivial
    · trivial
  · rcases known with ⟨_, rfl⟩ | ⟨_, rfl⟩ | ⟨_, rfl⟩ | ⟨_, rfl⟩ | ⟨_, rfl⟩ | ⟨_, rfl⟩ | ⟨_, rfl⟩ |
      ⟨_, rfl⟩ | ⟨folded, rfl⟩ | ⟨folded, rfl⟩
    · trivial
    · trivial
    · trivial
    · trivial
    · trivial
    · trivial
    · trivial
    · trivial
    · exact folded.trans (by decide)
    · exact folded.trans (by decide)

namespace Lexeme

theorem faithful_ofWord {w : List Char} {t : Token} (h : ofWord w = .ok t) : t.Faithful := by
  unfold ofWord at h
  split at h
  · split at h
    · obtain rfl := Except.ok.inj h
      trivial
    · cases h
  · obtain rfl := Except.ok.inj h
    cases found : Token.keyword? (String.ofList w) with
    | none => trivial
    | some t => exact Token.faithful_keyword? found

theorem faithful_symbol? {c : Char} {cs : List Char} {t : Token} {n : Nat}
    (h : symbol? c cs = some (t, n)) : t.Faithful := by
  unfold symbol? at h
  split at h <;> cases h <;> trivial

theorem Longest.faithful {c : Char} {cs : List Char} {t : Token} {n : Nat} (h : Longest c cs t n) :
    t.Faithful := by
  cases h with
  | quoted => trivial
  | word word made => exact faithful_ofWord made
  | symbol found => exact faithful_symbol? found

theorem faithful_of_mem_lexFrom {cs : List Char} {line : Int} {start : Nat} :
    ∀ t ∈ (lexFrom line start cs).tokens, t.Faithful := by
  intro t mem
  obtain ⟨c, cs, n, _, _, longest⟩ := exists_longest_of_mem_lexFrom mem
  exact longest.faithful

/-! ### Texts of tokens -/

theorem Longest.spells {c : Char} {cs : List Char} {t : Token} {n : Nat} (h : Longest c cs t n)
    (noNewline : c ≠ '\n') (notSkipped : isSkipped c = false) : Spells (c :: cs.take n) [t] := by
  have length : (cs.take n).length = n := List.length_take_of_le h.extent.1
  rw [← List.take_append_drop n cs] at h
  have alone : Longest c (cs.take n) t (cs.take n).length := by
    rw [length]
    exact h.of_append (Nat.le_of_eq length.symm)
  exact spells_longest noNewline notSkipped (longest_eq_ok_iff.mpr alone)

end Lexeme

open Lexeme

/-- Some text is lexed to this token alone. -/
def Token.Spelled (t : Token) : Prop := ∃ cs, Spells cs [t]

theorem Lexeme.spelled_of_mem_lexFrom {cs : List Char} {line : Int} {start : Nat} :
    ∀ t ∈ (lexFrom line start cs).tokens, t.Spelled := by
  intro t mem
  obtain ⟨c, cs, n, noNewline, notSkipped, longest⟩ := exists_longest_of_mem_lexFrom mem
  exact ⟨_, longest.spells noNewline notSkipped⟩

theorem Token.exists_spells {ts : List Token} (h : ∀ t ∈ ts, t.Spelled) : ∃ cs, Spells cs ts := by
  induction ts with
  | nil => exact ⟨[], .nil⟩
  | cons t ts ih =>
    rw [List.forall_mem_cons] at h
    obtain ⟨⟨u, first⟩, others⟩ := h
    obtain ⟨v, rest⟩ := ih others
    exact ⟨_, first.spaced rest⟩

theorem exists_lex_iff {ts : List Token} :
    (∃ text, (lex text).fault = none ∧ (lex text).tokens = ts) ↔ ∀ t ∈ ts, t.Spelled := by
  constructor
  · rintro ⟨text, _, rfl⟩
    exact spelled_of_mem_lexFrom
  · intro h
    obtain ⟨cs, spelled⟩ := Token.exists_spells h
    obtain ⟨tokens, clean⟩ := spelled 1 0
    refine ⟨String.ofList cs, ?_, ?_⟩
    · simpa [lex, lexAt] using clean
    · simpa [lex, lexAt] using tokens

end TemporalQuery
