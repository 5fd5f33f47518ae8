import TemporalQuery.Canonical
import TemporalQuery.Proofs.Grammar
import TemporalQuery.Proofs.Lexing.Boundary

/-!
# Spelling tokens

`Spells cs ts`: the text `cs` is lexed to the tokens `ts`, wherever it stands. Words, numbers and
names between quotes are spelled here, and texts put together from others.
-/

namespace TemporalQuery.Lexeme

def Spells (cs : List Char) (ts : List Token) : Prop :=
  ∀ line start, (lexFrom line start cs).tokens = ts ∧ (lexFrom line start cs).fault = none

theorem Spells.append {u v : List Char} {ts us : List Token} (hu : Spells u ts) (hv : Spells v us)
    (apart : Apart u v) : Spells (u ++ v) (ts ++ us) := by
  intro line start
  obtain ⟨tokens, clean⟩ := hu line start
  obtain ⟨tokens', clean'⟩ := hv (line + u.count '\n') (start + u.length)
  rw [lexFrom_append clean apart]
  refine ⟨?_, clean'⟩
  rw [← tokens, ← tokens']
  simp only [Lexed.tokens, List.map_append]

/-! ### Texts that stand apart -/

theorem joins_of_isWordChar_ne {c d : Char} (h : isWordChar c ≠ isWordChar d) :
    joins c d = false := by
  have alone : pairs.all (fun r => isWordChar r.1 == isWordChar r.2) = true := by decide
  have notPair : (c, d) ∉ pairs := fun mem => h (beq_iff_eq.mp (List.all_eq_true.mp alone _ mem))
  have notBoth : (isWordChar c && isWordChar d) = false := by
    cases hc : isWordChar c <;> cases hd : isWordChar d <;> simp_all
  simp only [joins, notBoth, notPair, decide_false, Bool.or_false]

/-- The characters that are no part of a longer token, quotes included. -/
def isLoose (c : Char) : Bool := !isWordChar c && pairs.all fun r => decide (r.1 ≠ c ∧ r.2 ≠ c)

theorem joins_of_isLoose {c d : Char} (h : isLoose c ∨ isLoose d) : joins c d = false := by
  simp only [isLoose, Bool.and_eq_true, Bool.not_eq_true', List.all_eq_true, decide_eq_true_eq] at h
  have notPair : (c, d) ∉ pairs := by
    intro mem
    rcases h with h | h
    · exact (h.2 _ mem).1 rfl
    · exact (h.2 _ mem).2 rfl
  have notBoth : (isWordChar c && isWordChar d) = false := by
    rcases h with h | h <;> simp [h.1]
  simp only [joins, notBoth, notPair, decide_false, Bool.or_false]

theorem Apart.of_isLoose_head {u v : List Char} {d : Char} (h : isLoose d) : Apart u (d :: v) := by
  intro c _ e he
  obtain rfl := Option.some.inj he
  exact joins_of_isLoose (.inr h)

theorem Apart.of_isLoose_last {u v : List Char} {c : Char} (h : isLoose c) :
    Apart (u ++ [c]) v := by
  intro e he d _
  rw [List.getLast?_concat] at he
  obtain rfl := Option.some.inj he
  exact joins_of_isLoose (.inl h)

theorem Apart.append_right {u v w : List Char} (hv : Apart u v) (hw : Apart u w) :
    Apart u (v ++ w) := by
  intro c hc d hd
  rw [List.head?_append] at hd
  rcases Option.or_eq_some_iff.mp hd with found | ⟨_, found⟩
  · exact hv c hc d found
  · exact hw c hc d found

theorem Apart.of_getLast? {u v : List Char} {c : Char} (last : u.getLast? = some c)
    (h : Apart [c] v) : Apart u v := by
  intro e he
  rw [last] at he
  exact h e he

theorem Apart.of_ends {u v : List Char} {c d : Char} (last : u.getLast? = some c)
    (first : v.head? = some d) (h : joins c d = false) : Apart u v := by
  intro e he f hf
  rw [last] at he
  rw [first] at hf
  obtain rfl := Option.some.inj he
  obtain rfl := Option.some.inj hf
  exact h

theorem Apart.of_word {w v : List Char} {d : Char} (word : ∀ c ∈ w, isWordChar c)
    (hd : isWordChar d = false) : Apart w (d :: v) := by
  intro c hc e he
  obtain rfl := Option.some.inj he
  refine joins_of_isWordChar_ne ?_
  rw [hd, word c (List.mem_of_getLast? hc)]
  decide

theorem apart_of_word {c : Char} {w : List Char} (hc : isWordChar c = false)
    (word : ∀ d ∈ w, isWordChar d) : Apart [c] w := by
  intro e he d hd
  have last : e = c := (Option.some.inj he).symm
  refine joins_of_isWordChar_ne ?_
  rw [last, hc, word d (List.mem_of_mem_head? hd)]
  decide

/-! ### Symbols -/

theorem spells_longest {c : Char} {cs : List Char} {t : Token} (noNewline : c ≠ '\n')
    (notSkipped : isSkipped c = false) (found : longest c cs = .ok (t, cs.length)) :
    Spells (c :: cs) [t] := by
  intro line start
  rw [lexFrom, if_neg noNewline, if_neg (by simp [notSkipped]), found]
  simp [Lexed.tokens, lexFrom]

theorem spells_symbol {c : Char} {cs : List Char} {t : Token}
    (h : symbol? c cs = some (t, cs.length)) : Spells (c :: cs) [t] := by
  obtain ⟨noNewline, notSkipped, _, _⟩ := symbol?_plain h
  exact spells_longest noNewline notSkipped (longest_eq_ok_iff.mpr (.symbol h))

theorem Spells.nil : Spells [] [] := by
  intro line start
  simp [Lexed.tokens, lexFrom]

theorem spells_blank : Spells [' '] [] := by
  intro line start
  simp [Lexed.tokens, lexFrom, isSkipped]

theorem Spells.spaced {u v : List Char} {ts us : List Token} (hu : Spells u ts) (hv : Spells v us) :
    Spells (u ++ ' ' :: v) (ts ++ us) := by
  have blank : Spells (' ' :: v) us := spells_blank.append hv (Apart.of_isLoose_last (u := []) rfl)
  exact hu.append blank (.of_isLoose_head rfl)

theorem Spells.parenthesized {s : String} {ts : List Token} (h : Spells s.toList ts) :
    Spells (TemporalQuery.parenthesized s).toList (.openParen :: (ts ++ [.closeParen])) := by
  have closed : Spells (s.toList ++ [')']) (ts ++ [.closeParen]) :=
    h.append (spells_symbol rfl) (.of_isLoose_head rfl)
  have opening : Spells ['('] [.openParen] := spells_symbol rfl
  have whole := opening.append closed (Apart.of_isLoose_last (u := []) rfl)
  simpa [TemporalQuery.parenthesized] using whole

/-! ### Words -/

theorem spells_word {w : List Char} {t : Token} (nonempty : w ≠ []) (word : ∀ c ∈ w, isWordChar c)
    (made : ofWord w = .ok t) : Spells w [t] := by
  cases w with
  | nil => exact absurd rfl nonempty
  | cons c cs =>
    rw [List.forall_mem_cons] at word
    obtain ⟨_, noNewline, notSkipped, _, _⟩ := isWordChar_spec word.1
    have whole : cs.takeWhile isWordChar = cs := List.takeWhile_eq_self_iff.mpr word.2
    rw [← whole] at made
    have found : Longest c cs t (cs.takeWhile isWordChar).length := .word word.1 made
    rw [whole] at found
    exact spells_longest noNewline notSkipped (longest_eq_ok_iff.mpr found)

theorem spells_literal {w : List Char} {t : Token} (word : (!w.isEmpty && w.all isWordChar) = true)
    (made : ofWord w = .ok t) : Spells w [t] := by
  rw [Bool.and_eq_true, Bool.not_eq_true', List.isEmpty_eq_false_iff, List.all_eq_true] at word
  exact spells_word word.1 word.2 made

theorem not_isWordChar_quote {q : Char} (quote : q = '"' ∨ q = '\'') : isWordChar q = false := by
  rcases quote with rfl | rfl <;> decide

theorem longest_quoted {q : Char} {w : List Char} (quote : q = '"' ∨ q = '\'') (nonempty : w ≠ [])
    (word : ∀ c ∈ w, isWordChar c) :
    longest q (w ++ [q]) = .ok (.quoted (String.ofList w), (w ++ [q]).length) := by
  have within : (w ++ [q]).takeWhile isWordChar = w := by
    rw [takeWhile_isWordChar_append, List.takeWhile_eq_self_iff.mpr word]
    intro _ d hd
    obtain rfl := Option.some.inj hd
    exact not_isWordChar_quote quote
  unfold longest Lexeme.quoted
  simp [quote, within, nonempty]

theorem spells_quoted {q : Char} {w : List Char} (quote : q = '"' ∨ q = '\'') (nonempty : w ≠ [])
    (word : ∀ c ∈ w, isWordChar c) : Spells (q :: (w ++ [q])) [.quoted (String.ofList w)] := by
  have notNewline : q ≠ '\n' := by rcases quote with rfl | rfl <;> decide
  have notSkipped : isSkipped q = false := by rcases quote with rfl | rfl <;> decide
  exact spells_longest notNewline notSkipped (longest_quoted quote nonempty word)

theorem isWordChar_of_mem_toString {n : Nat} {c : Char} (h : c ∈ (toString n).toList) :
    isWordChar c := by
  rw [Nat.toString_eq_repr, Nat.toList_repr] at h
  have digit : c.isDigit := Nat.isDigit_of_mem_toDigits (by decide) (by decide) h
  simp [isWordChar, Char.isAlphanum, digit]

theorem toString_ne_nil (n : Nat) : (toString n).toList ≠ [] := by
  rw [Nat.toString_eq_repr, Nat.toList_repr]
  exact Nat.toDigits_ne_nil

theorem ofWord_toString {n : Nat} (small : n ≤ maxInt) : ofWord (toString n).toList = .ok (.int n) := by
  have digits : ∀ c ∈ Nat.toDigits 10 n, c.isDigit := fun c hc =>
    Nat.isDigit_of_mem_toDigits (by decide) (by decide) hc
  have value : decimal (Nat.toDigits 10 n) = n := Nat.ofDigitChars_ten_toDigits
  rw [Nat.toString_eq_repr, Nat.toList_repr, ofWord, if_pos (List.all_eq_true.mpr digits), value,
    if_pos small]

theorem spells_number {n : Nat} (small : n ≤ maxInt) : Spells (toString n).toList [.int n] :=
  spells_word (toString_ne_nil n) (fun _ => isWordChar_of_mem_toString) (ofWord_toString small)

end Lexeme

/-! ### Names -/

open Lexeme

theorem Token.foldChar_digit {c : Char} (h : c.isDigit) : foldChar c = c := by
  have small : c.toNat < 128 := isWordChar_lt (by simp [isWordChar, Char.isAlphanum, h])
  have all : ∀ n < 128, (Char.ofNat n).isDigit → foldChar (Char.ofNat n) = Char.ofNat n := by
    decide +kernel
  have known := all c.toNat small
  rw [Char.ofNat_toNat] at known
  exact known h

theorem Token.exists_of_keyword? {x : String} {t : Token} (h : keyword? x = some t) :
    ∃ make, ((x, make) ∈ exactKeywords ∨ (fold x, make) ∈ foldedKeywords) ∧ t = make x := by
  unfold keyword? at h
  obtain ⟨make, found, rfl⟩ := Option.map_eq_some_iff.mp h
  refine ⟨make, ?_, rfl⟩
  rcases Option.or_eq_some_iff.mp found with exactly | ⟨_, folded⟩
  · obtain ⟨l, r, split, _⟩ := List.lookup_eq_some_iff.mp exactly
    exact .inl (split ▸ List.mem_append_right l List.mem_cons_self)
  · obtain ⟨l, r, split, _⟩ := List.lookup_eq_some_iff.mp folded
    exact .inr (split ▸ List.mem_append_right l List.mem_cons_self)

/-- A keyword that opens a query is the name that it spells; no other keyword is a name. -/
theorem Token.name?_keyword? {x : String} {t : Token} (h : keyword? x = some t) :
    t.name? = if t.isOpening then some x else none := by
  obtain ⟨make, known, rfl⟩ := exists_of_keyword? h
  simp only [exactKeywords, foldedKeywords, List.mem_cons, List.not_mem_nil, or_false,
    Prod.mk.injEq] at known
  rcases known with (⟨rfl, rfl⟩ | ⟨rfl, rfl⟩ | ⟨rfl, rfl⟩ | ⟨rfl, rfl⟩) | known
  · rfl
  · rfl
  · rfl
  · rfl
  · rcases known with ⟨_, rfl⟩ | ⟨_, rfl⟩ | ⟨_, rfl⟩ | ⟨_, rfl⟩ | ⟨_, rfl⟩ | ⟨_, rfl⟩ | ⟨_, rfl⟩ |
      ⟨_, rfl⟩ | ⟨_, rfl⟩ | ⟨_, rfl⟩ <;> rfl

theorem Token.keyword?_digits {x : String} (digits : x.toList.all Char.isDigit) :
    keyword? x = none := by
  have keys : (exactKeywords ++ foldedKeywords).all (!·.1.toList.all Char.isDigit) = true := by
    decide
  have notKey : ∀ r ∈ exactKeywords ++ foldedKeywords, x ≠ r.1 := by
    intro r hr same
    have known := List.all_eq_true.mp keys r hr
    rw [← same, digits] at known
    exact absurd known nofun
  have folded : fold x = x := by
    have fixed : x.toList.map foldChar = x.toList.map id := by
      refine List.map_congr_left fun c hc => ?_
      have digit : c.isDigit := List.all_eq_true.mp digits c hc
      exact foldChar_digit digit
    rw [fold, fixed, List.map_id, String.ofList_toList]
  have exactly : exactKeywords.lookup x = none := List.lookup_eq_none_iff.mpr fun r hr => by
    simpa using notKey r (List.mem_append_left _ hr)
  have anyCase : foldedKeywords.lookup x = none := List.lookup_eq_none_iff.mpr fun r hr => by
    simpa using notKey r (List.mem_append_right _ hr)
  rw [keyword?, folded, exactly, anyCase]
  rfl

namespace Identifier

/-- The names that can be written at all. -/
structure IsWord (x : String) : Prop where
  nonempty : x.toList ≠ []
  word : ∀ c ∈ x.toList, isWordChar c

theorem IsWord.of_check {x : String} (h : (x.toList ≠ [] && x.toList.all isWordChar) = true) :
    IsWord x := by
  rw [Bool.and_eq_true, decide_eq_true_eq, List.all_eq_true] at h
  exact ⟨h.1, h.2⟩

def token (x : String) : Token :=
  if needsQuotes x then .quoted x else (Token.keyword? x).getD (.ident x)

theorem name?_token (x : String) : (token x).name? = some x := by
  unfold token
  split
  · rfl
  · rename_i bare
    cases found : Token.keyword? x with
    | none => rfl
    | some t =>
      simp only [needsQuotes, Token.isReserved, found, Option.any_some, Bool.or_eq_true, not_or] at bare
      exact (Token.name?_keyword? found).trans (if_pos (by simpa using bare.2))

theorem IsWord.all_isDigit {x : String} (h : IsWord x) :
    x.toList.all Text.isDigit = x.toList.all Char.isDigit := by
  have same : ∀ c ∈ x.toList, Text.isDigit c = c.isDigit := fun c hc =>
    Text.isDigit_of_ascii (isWordChar_lt (h.word c hc))
  rw [Bool.eq_iff_iff, List.all_eq_true, List.all_eq_true]
  exact forall₂_congr fun c hc => by rw [same c hc]

theorem needsQuotes_of_digits {x : String} (h : IsWord x) (digits : x.toList.all Char.isDigit) :
    needsQuotes x := by
  have nonempty : x.isEmpty = false := by
    rw [← Bool.not_eq_true, String.isEmpty_iff]
    rintro rfl
    exact h.nonempty rfl
  simp [needsQuotes, h.all_isDigit, digits, nonempty]

/-- A name that may open a query is written bare inside a condition. -/
theorem needsQuotes_of_isOpening {x : String} (h : IsWord x) {t : Token}
    (found : Token.keyword? x = some t) (opening : t.isOpening) : needsQuotes x = false := by
  have notDigits : x.toList.all Char.isDigit = false := by
    rw [← Bool.not_eq_true]
    intro digits
    rw [Token.keyword?_digits digits] at found
    exact absurd found nofun
  simp [needsQuotes, Token.isReserved, found, opening, h.all_isDigit, notDigits]

theorem spells_quoted {x : String} (h : IsWord x) : Spells (quoted x).toList [.quoted x] := by
  have spelled := Lexeme.spells_quoted (.inl rfl) h.nonempty h.word
  rw [String.ofList_toList] at spelled
  simpa [quoted] using spelled

theorem ofWord_eq_token {x : String} (h : IsWord x) (bare : ¬ needsQuotes x) :
    ofWord x.toList = .ok (token x) := by
  have notDigits : ¬ x.toList.all Char.isDigit := fun digits => bare (needsQuotes_of_digits h digits)
  rw [ofWord, if_neg notDigits, String.ofList_toList, token, if_neg bare]

theorem spells_text {x : String} (h : IsWord x) : Spells (text x).toList [token x] := by
  by_cases needed : needsQuotes x
  · rw [text, token, if_pos needed, if_pos needed]
    exact spells_quoted h
  · rw [text, if_neg needed]
    exact spells_word h.nonempty h.word (ofWord_eq_token h needed)

theorem apart_text {x : String} (h : IsWord x) {c : Char} (hc : isWordChar c = false) :
    Apart [c] (text x).toList := by
  unfold text
  split
  · have quote : (quoted x).toList = '"' :: (x.toList ++ ['"']) := by simp [quoted]
    rw [quote]
    exact .of_isLoose_head rfl
  · exact apart_of_word hc h.word

end Identifier

end TemporalQuery
