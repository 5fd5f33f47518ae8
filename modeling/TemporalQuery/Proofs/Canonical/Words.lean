import TemporalQuery.Proofs.Building
import TemporalQuery.Proofs.Canonical.FirstWord
import TemporalQuery.Proofs.Canonical.Quotes
import TemporalQuery.Proofs.Lexing.Cut
import Mathlib.Data.Nat.Digits.Defs

/-!
# Names and numbers as words

The text of a name or of an integer is one lexeme, and says the name or the integer
(`words_lexed_back`). A name has quotes exactly if the lexer makes nothing of the bare word that the
grammar could take as a name. Digits are lexed to the number that they are in the decimal system, with
any number of zeros in front, or are refused because that number is too large.
-/

namespace TemporalQuery

open Lexeme

/-! ### Texts of one lexeme -/

/-- The text is lexed to this token alone, which takes all of it. -/
def LexedAs (s : String) (t : Token) : Prop := lex s = ⟨[⟨t, 1, 0, s.length⟩], none⟩

variable {s x : String} {c : Char} {cs : List Char} {t : Token} {fault : LexFault}

theorem LexedAs.of_longest (chars : s.toList = c :: cs) (noNewline : c ≠ '\n')
    (notSkipped : ¬ isSkipped c) (found : longest c cs = .ok (t, cs.length)) : LexedAs s t := by
  have length : s.length = cs.length + 1 := by rw [← String.length_toList, chars, List.length_cons]
  rw [LexedAs, lex_eq_lexFrom, chars, lexFrom_of_longest noNewline notSkipped found, List.drop_length,
    length]
  simp [lexFrom]

namespace Identifier

/-- The longest token at the start of a word is made of the whole word. -/
theorem IsWord.exists_cons (h : IsWord x) :
    ∃ c cs, x.toList = c :: cs ∧ c ≠ '\n' ∧ ¬ isSkipped c ∧
      longest c cs = (ofWord x.toList).map (·, cs.length) := by
  obtain ⟨c, cs, chars⟩ := List.exists_cons_of_ne_nil h.nonempty
  have word := h.word
  rw [chars, List.forall_mem_cons] at word
  obtain ⟨_, noNewline, notSkipped, noDouble, noSingle⟩ := isWordChar_spec word.1
  refine ⟨c, cs, chars, noNewline, by simp [notSkipped], ?_⟩
  rw [chars, longest, if_neg (not_or.mpr ⟨noDouble, noSingle⟩), if_pos word.1,
    List.takeWhile_eq_self_iff.mpr word.2]

theorem IsWord.lexedAs (h : IsWord x) (made : ofWord x.toList = .ok t) : LexedAs x t := by
  obtain ⟨c, cs, chars, noNewline, notSkipped, found⟩ := h.exists_cons
  rw [made] at found
  exact .of_longest chars noNewline notSkipped found

theorem IsWord.lex_eq_error (h : IsWord x) (failed : ofWord x.toList = .error fault) :
    lex x = ⟨[], some (fault, 0)⟩ := by
  obtain ⟨c, cs, chars, noNewline, notSkipped, found⟩ := h.exists_cons
  rw [failed] at found
  rw [lex_eq_lexFrom, chars, lexFrom, if_neg noNewline, if_neg notSkipped,
    show longest c cs = .error fault from found]

theorem lexedAs_quoted (h : IsWord x) : LexedAs (quoted x) (.quoted x) := by
  have chars : (quoted x).toList = '"' :: (x.toList ++ ['"']) := by simp [quoted]
  refine .of_longest chars (by decide) (by decide) ?_
  rw [longest_quoted (.inl rfl) h.nonempty h.word, String.ofList_toList]

theorem lexedAs_text (h : IsWord x) : LexedAs (text x) (token x) := by
  by_cases needed : needsQuotes x
  · rw [text, token, if_pos needed, if_pos needed]
    exact lexedAs_quoted h
  · rw [text, if_neg needed]
    exact h.lexedAs (ofWord_eq_token h needed)

end Identifier

/-! ### Types of names -/

namespace Token

/-- The types of the tokens that are names without quotes. -/
def bareNameLabels : List String :=
  ["IDENT", "ALWAYS", "EXISTS", "PROBABILITY", "FINALLY", "GLOBALLY"]

/-- The grammar takes tokens of this type as names. A modality it takes only as a letter. -/
def IsNameLabel (label : String) : Prop := ∃ t : Token, t.label = label ∧ t.name?.isSome

theorem label_of_isName (h : t.isName) : (∃ x, t = quoted x) ∨ t.label ∈ bareNameLabels := by
  cases t with
  | quoted x => exact .inl ⟨x, rfl⟩
  | ident x => exact .inr List.mem_cons_self
  | quantifier k x => exact .inr (by cases k <;> simp [label, Quantifier.label, bareNameLabels])
  | modality m x => exact .inr (by cases m <;> simp [label, Modality.label, bareNameLabels])
  | _ => cases h

theorem isName_of_label (h : t.label ∈ "QUOTED" :: bareNameLabels) : t.isName := by
  cases t with
  | ident x | quoted x | quantifier k x | modality m x => rfl
  | connective op x => cases op <;> simp [label, Connective.label, bareNameLabels] at h
  | relation op x => cases op <;> simp [label, RelOp.label, bareNameLabels] at h
  | constant k x | unary k x | arith k => cases k <;> simp [label, bareNameLabels] at h
  | _ => simp [label, bareNameLabels] at h

theorem isNameLabel_iff : IsNameLabel t.label ↔ t.isName := by
  constructor
  · rintro ⟨u, same, named⟩
    obtain ⟨x, named⟩ := Option.isSome_iff_exists.mp named
    refine isName_of_label ?_
    rw [← same]
    rcases label_of_isName (isName_of_name? named).1 with ⟨y, rfl⟩ | listed
    · exact List.mem_cons_self
    · exact List.mem_cons_of_mem _ listed
  · intro h
    cases t with
    | ident x | quoted x | quantifier k x => exact ⟨_, rfl, rfl⟩
    | modality m x => exact ⟨modality m m.symbol, rfl, by simp [name?]⟩
    | _ => cases h

end Token

namespace Identifier

theorem label_token (x : String) :
    if needsQuotes x then (token x).label = "QUOTED" else (token x).label ∈ Token.bareNameLabels := by
  split
  · rename_i needed
    rw [token, if_pos needed]
    rfl
  · rename_i bare
    rcases Token.label_of_isName (Token.isName_of_name? (name?_token x)).1 with ⟨y, quotes⟩ | listed
    · obtain ⟨needed, rfl⟩ := needsQuotes_of_token quotes
      exact absurd needed bare
    · exact listed

theorem needsQuotes_iff (h : IsWord x) :
    needsQuotes x ↔ (lex x).fault.isSome ∨ ∃ t, LexedAs x t ∧ ¬ Token.IsNameLabel t.label := by
  constructor
  · intro needed
    cases made : ofWord x.toList with
    | error fault =>
      rw [h.lex_eq_error made]
      exact .inl rfl
    | ok t =>
      rcases token_of_ofWord h made with ⟨bare, _⟩ | ⟨_, unnamed⟩
      · simp [bare] at needed
      · exact .inr ⟨t, h.lexedAs made, by simp [Token.isNameLabel_iff, unnamed.isName]⟩
  · intro other
    by_contra bare
    have alone := lexedAs_text h
    rw [text, if_neg bare] at alone
    rcases other with failed | ⟨t, alone', unnamed⟩
    · rw [show lex x = _ from alone] at failed
      cases failed
    · rw [LexedAs, show lex x = _ from alone] at alone'
      obtain rfl : token x = t := by simpa using alone'
      exact unnamed (Token.isNameLabel_iff.mpr (Token.isName_of_name? (name?_token x)).1)

end Identifier

/-! ### Numbers -/

/-- Decimal digits, zeros in front included. -/
structure Numeral (d : String) : Prop where
  nonempty : d.toList ≠ []
  digits : ∀ c ∈ d.toList, c.isDigit

/-- The number in the decimal system: the last digit counts once, each other ten times as much as the one
behind it. -/
def Numeral.value (d : String) : Nat :=
  Nat.ofDigits 10 (d.toList.reverse.map fun c => c.toNat - '0'.toNat)

theorem Lexeme.decimal_eq_ofDigits (w : List Char) :
    decimal w = Nat.ofDigits 10 (w.reverse.map fun c => c.toNat - '0'.toNat) := by
  induction w with
  | nil => rfl
  | cons c w ih =>
    have front : decimal (c :: w) = 10 ^ w.length * (c.toNat - '0'.toNat) + decimal w := by
      rw [decimal, Nat.ofDigitChars_cons, Nat.ofDigitChars_eq_ofDigitChars_zero, Nat.mul_zero, Nat.zero_add]
      rfl
    rw [front, ih, List.map_reverse, List.map_reverse, List.map_cons, Nat.ofDigits_reverse_cons,
      List.length_map, Nat.add_comm]

namespace Numeral

variable {d : String} {n : Nat}

theorem of_check (h : (d.toList ≠ [] && d.toList.all Char.isDigit) = true) : Numeral d := by
  rw [Bool.and_eq_true, decide_eq_true_eq, List.all_eq_true] at h
  exact ⟨h.1, h.2⟩

theorem isWord (h : Numeral d) : Identifier.IsWord d where
  nonempty := h.nonempty
  word c mem := by simp [isWordChar, Char.isAlphanum, h.digits c mem]

theorem ofWord_eq (h : Numeral d) (value : value d = n) :
    ofWord d.toList = if n ≤ maxInt then .ok (.int n) else .error (.intTooLarge d) := by
  have worth : decimal d.toList = n := (decimal_eq_ofDigits d.toList).trans value
  rw [ofWord, if_pos (List.all_eq_true.mpr h.digits), worth, String.ofList_toList]

theorem lex_eq_error (h : Numeral d) (value : value d = n) (large : maxInt < n) :
    lex d = ⟨[], some (.intTooLarge d, 0)⟩ := by
  refine h.isWord.lex_eq_error ?_
  rw [h.ofWord_eq value, if_neg (Nat.not_le_of_lt large)]

end Numeral

theorem lexedAs_number {n : Nat} (small : n ≤ maxInt) : LexedAs (toString n) (.int n) :=
  have word : Identifier.IsWord (toString n) :=
    ⟨toString_ne_nil n, fun _ => isWordChar_of_mem_toString⟩
  word.lexedAs (ofWord_toString small)

/-- Every name that is a word is written as one token that says it, between quotes exactly if the bare word
is lexed to no name. Digits are lexed to their value in the decimal system, which is written as digits of
the same value, or are refused where it is out of range. -/
theorem words_lexed_back :
    (∀ x, Identifier.IsWord x →
      (Recipe.name (.text x)).build = .ok (.expr (.name x)) ∧
      (∃ t, LexedAs (Expr.name x).text t ∧ t.text = x ∧
        if Identifier.needsQuotes x then t.label = "QUOTED" else t.label ∈ Token.bareNameLabels) ∧
      (Identifier.needsQuotes x ↔
        (lex x).fault.isSome ∨ ∃ t, LexedAs x t ∧ ¬ Token.IsNameLabel t.label)) ∧
    ∀ d n, Numeral d → Numeral.value d = n →
      (n ≤ maxInt →
        LexedAs d (.int n) ∧ (Recipe.int (.int n)).build = .ok (.expr (.int n)) ∧
          LexedAs (Expr.int n).text (.int n)) ∧
      (maxInt < n →
        (lex d).lexemes = [] ∧ (lex d).error d =
          some ⟨.literalRange, "Integer literal " ++ d ++ " exceeds " ++ toString maxInt, 0, ⟨1, 1⟩⟩) := by
  constructor
  · intro x word
    refine ⟨?_, ?_, Identifier.needsQuotes_iff word⟩
    · simp only [Recipe.build, word.toIdentifier]
      rfl
    · have said := (Token.isName_of_name? (Identifier.name?_token x)).2
      exact ⟨_, Identifier.lexedAs_text word, said, Identifier.label_token x⟩
  · intro d n numeral value
    constructor
    · intro small
      refine ⟨numeral.isWord.lexedAs ?_, ?_, lexedAs_number small⟩
      · rw [numeral.ofWord_eq value, if_pos small]
      · simp only [Recipe.build, Value.toInt_of_le small]
        rfl
    · intro large
      rw [numeral.lex_eq_error value large]
      exact ⟨rfl, rfl⟩

/-- A keyword needs quotes in any letter case, a word that may open a query in none. Zeros in front make no
number too large. -/
theorem keywords_and_zeros_lexed_back :
    (Identifier.IsWord "neXt" ∧
      (∃ t, LexedAs "\"neXt\"" t ∧ t.text = "neXt" ∧ t.label = "QUOTED") ∧
      ∃ t, LexedAs "neXt" t ∧ ¬ Token.IsNameLabel t.label) ∧
    (Identifier.IsWord "pR" ∧
      ∃ t, LexedAs "pR" t ∧ t.text = "pR" ∧ t.label ∈ Token.bareNameLabels) ∧
    (Numeral "0002147483647" ∧ LexedAs "0002147483647" (.int 2147483647) ∧
      LexedAs "2147483647" (.int 2147483647)) ∧
    Numeral "2147483648" ∧ (lex "2147483648").lexemes = [] ∧
      (lex "2147483648").error "2147483648" =
        some ⟨.literalRange, "Integer literal 2147483648 exceeds 2147483647", 0, ⟨1, 1⟩⟩ := by
  obtain ⟨names, numbers⟩ := words_lexed_back
  have keyword : Identifier.IsWord "neXt" := .of_check rfl
  have opening : Identifier.IsWord "pR" := .of_check rfl
  have largest : Numeral "0002147483647" := .of_check rfl
  have tooLarge : Numeral "2147483648" := .of_check rfl
  refine ⟨⟨keyword, ?_, ?_⟩, ⟨opening, ?_⟩, ⟨largest, ?_⟩, tooLarge, ?_⟩
  · exact (names "neXt" keyword).2.1
  · have needed : Identifier.needsQuotes "neXt" := by decide +kernel
    have clean : ¬ (lex "neXt").fault.isSome := by decide +kernel
    exact ((names "neXt" keyword).2.2.mp needed).resolve_left clean
  · exact (names "pR" opening).2.1
  · have value : Numeral.value "0002147483647" = 2147483647 := by decide +kernel
    obtain ⟨read, _, reread⟩ := (numbers _ _ largest value).1 (Nat.le_refl maxInt)
    exact ⟨read, reread⟩
  · have value : Numeral.value "2147483648" = 2147483648 := by decide +kernel
    exact (numbers _ _ tooLarge value).2 (Nat.lt_succ_self maxInt)

end TemporalQuery
