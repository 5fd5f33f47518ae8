import TemporalQuery.Proofs.Lexing.Segmentation
import Mathlib.Data.List.Forall2

/-!
# Forms of tokens

Some tokens can be written in several forms, and any blanks may stand between tokens. What is written for
each token, with blanks in between, is lexed to the same tokens but for the spellings that they keep
(`Spaced.spells`, `Token.exists_spelled`).
-/

namespace TemporalQuery

open Lexeme

/-! ### Blanks -/

/-- The words stand one behind the other, with blanks between each two. -/
inductive Spaced : List (List Char) → List Char → Prop
  | last (w : List Char) : Spaced [w] w
  | cons (w gap : List Char) {cs : List Char} {ws : List (List Char)} (nonempty : gap ≠ [])
      (blank : ∀ c ∈ gap, IsSpace c) (rest : Spaced ws cs) : Spaced (w :: ws) (w ++ (gap ++ cs))

theorem IsSpace.isLoose {c : Char} (h : IsSpace c) : isLoose c := by
  rcases h with rfl | rfl | rfl | rfl <;> decide

theorem spells_gap {gap : List Char} (blank : ∀ c ∈ gap, IsSpace c) : Spells gap [] := by
  induction gap with
  | nil => exact .nil
  | cons c gap ih =>
    rw [List.forall_mem_cons] at blank
    have first : Spells [c] [] := by
      intro line start
      rcases blank.1 with rfl | rfl | rfl | rfl <;> simp [Lexed.tokens, lexFrom, isSkipped]
    exact first.append (ih blank.2) (Apart.of_isLoose_last (u := []) blank.1.isLoose)

theorem Spaced.spells {ws : List (List Char)} {cs : List Char} (h : Spaced ws cs)
    {ts : List Token} (spelled : List.Forall₂ (fun w t => Spells w [t]) ws ts) : Spells cs ts := by
  induction h generalizing ts with
  | last w =>
    obtain ⟨t, _, first, none, rfl⟩ := List.forall₂_cons_left_iff.mp spelled
    cases none
    exact first
  | @cons w gap cs ws nonempty blank rest ih =>
    obtain ⟨t, us, first, others, rfl⟩ := List.forall₂_cons_left_iff.mp spelled
    have inner : Spells (gap ++ cs) us := by
      obtain ⟨front, c, rfl⟩ := List.eq_nil_or_concat gap |>.resolve_left nonempty
      rw [List.concat_eq_append] at blank ⊢
      exact (spells_gap blank).append (ih others) (.of_isLoose_last (blank c (by simp)).isLoose)
    cases gap with
    | nil => exact absurd rfl nonempty
    | cons c gap =>
      exact first.append inner (.of_isLoose_head (blank c List.mem_cons_self).isLoose)

/-! ### Other forms of a token -/

namespace Token

/-- Texts that are lexed alike, each to a token that keeps its spelling. -/
structure Forms where
  make : String → Token
  exact : List String
  anyCase : List String

/-- What operators and constants can be written as. -/
def operatorForms : List Forms :=
  [⟨connective .conjunction, ["&", "&&"], ["and"]⟩, ⟨connective .disjunction, ["|", "||"], ["or"]⟩,
    ⟨connective .strongUntil, [], ["until"]⟩, ⟨unary .negation, ["!"], ["not"]⟩,
    ⟨unary .nextState, [], ["next"]⟩, ⟨relation .eq, ["=", "=="], []⟩,
    ⟨relation .ne, ["!=", "/="], []⟩, ⟨constant .truth, [], ["true"]⟩,
    ⟨constant .falsity, [], ["false"]⟩, ⟨constant .deadlock, [], ["deadlock"]⟩]

/-- What is said in other ways in a heading alone. Inside a condition these words are names. -/
def openingForms : List Forms :=
  [⟨quantifier .probability, [], ["p"]⟩, ⟨quantifier .probabilityR, [], ["pr"]⟩,
    ⟨modality .eventually, ["F", "<>"], []⟩, ⟨modality .globally, ["G", "[]"], []⟩]

/-- What may be written for a token. A name between quotes of the other sort, and an integer with zeros in
front, are the same token. -/
inductive WrittenAs (forms : List Forms) (t : Token) (w : List Char) : Prop
  | same (spelling : Spelling w (.ok t))
  | exact {f : Forms} (listed : f ∈ forms) (x : String) (made : t = f.make x)
      (form : String.ofList w ∈ f.exact)
  | anyCase {f : Forms} (listed : f ∈ forms) (x : String) (made : t = f.make x) {s : String}
      (form : s ∈ f.anyCase) (letters : w.map Char.toLower = s.toList)

end Token

theorem Lexeme.isWordChar_of_toLower {c : Char} (h : isWordChar c.toLower) : isWordChar c := by
  unfold Char.toLower at h
  split at h
  · rename_i upper
    have all : ∀ n < 128, (Char.ofNat n).isUpper → isWordChar (Char.ofNat n) := by decide +kernel
    have small : c.toNat < 128 := Nat.lt_of_le_of_lt (UInt32.le_iff_toNat_le.mp upper.2) (by decide)
    have known := all c.toNat small
    rw [Char.ofNat_toNat] at known
    exact known (decide_eq_true upper)
  · exact h

theorem Token.fold_ofList {w : List Char} (word : ∀ c ∈ w, isWordChar c) :
    fold (String.ofList w) = String.ofList (w.map Char.toLower) := by
  rw [fold, String.toList_ofList]
  refine congrArg String.ofList (List.map_congr_left fun c mem => ?_)
  unfold foldChar
  split
  · rename_i kelvin
    have small := isWordChar_lt (word c mem)
    rw [kelvin] at small
    exact absurd small (by decide)
  · rfl

namespace Token

section

variable {w : List Char} {s : String} {make : String → Token}

/-- A keyword in any letter case is a word. -/
theorem isWord_of_letters (listed : (s, make) ∈ foldedKeywords) (letters : w.map Char.toLower = s.toList) :
    w ≠ [] ∧ ∀ c ∈ w, isWordChar c := by
  have keys : foldedKeywords.all (fun r => !r.1.toList.isEmpty && r.1.toList.all isWordChar) = true := by
    decide
  have key := List.all_eq_true.mp keys _ listed
  rw [Bool.and_eq_true, List.all_eq_true, ← letters] at key
  constructor
  · rintro rfl
    cases key.1
  · intro c mem
    exact isWordChar_of_toLower (key.2 _ (List.mem_map_of_mem mem))

theorem lookup_foldedKeywords (listed : (s, make) ∈ foldedKeywords) :
    foldedKeywords.lookup s = some make := by
  simp only [foldedKeywords, List.mem_cons, List.not_mem_nil, or_false, Prod.mk.injEq] at listed
  rcases listed with ⟨rfl, rfl⟩ | ⟨rfl, rfl⟩ | ⟨rfl, rfl⟩ | ⟨rfl, rfl⟩ | ⟨rfl, rfl⟩ | ⟨rfl, rfl⟩ |
    ⟨rfl, rfl⟩ | ⟨rfl, rfl⟩ | ⟨rfl, rfl⟩ | ⟨rfl, rfl⟩ <;> rfl

theorem keyword?_of_letters (listed : (s, make) ∈ foldedKeywords)
    (letters : w.map Char.toLower = s.toList) :
    keyword? (String.ofList w) = some (make (String.ofList w)) := by
  obtain ⟨_, word⟩ := isWord_of_letters listed letters
  have folded : fold (String.ofList w) = s := by rw [fold_ofList word, letters, String.ofList_toList]
  have others : exactKeywords.all (fun r =>
      foldedKeywords.all fun r' => decide (fold r.1 ≠ r'.1)) = true := by decide +kernel
  have notExact : exactKeywords.lookup (String.ofList w) = none :=
    List.lookup_eq_none_iff.mpr fun r mem => by
      have other := List.all_eq_true.mp (List.all_eq_true.mp others r mem) _ listed
      rw [bne_iff_ne]
      intro same
      simp [← same, folded] at other
  rw [keyword?, notExact, folded, lookup_foldedKeywords listed]
  rfl

/-- A keyword in any letter case is lexed as that keyword. -/
theorem spells_keyword (listed : (s, make) ∈ foldedKeywords) (letters : w.map Char.toLower = s.toList) :
    Spells w [make (String.ofList w)] := by
  obtain ⟨nonempty, word⟩ := isWord_of_letters listed letters
  have found := keyword?_of_letters listed letters
  have notDigits : ¬ w.all Char.isDigit := by
    intro digits
    rw [keyword?_digits (by rwa [String.toList_ofList])] at found
    cases found
  refine spells_word nonempty word ?_
  rw [ofWord, if_neg notDigits, found]
  rfl

end

theorem spells_exactForm {f : Forms} (listed : f ∈ operatorForms ++ openingForms) {s : String}
    (form : s ∈ f.exact) : Spells s.toList [f.make s] := by
  have table : (operatorForms ++ openingForms).all (fun f => f.exact.all fun s =>
      decide ((lex s).tokens = [f.make s] ∧ (lex s).fault = none)) = true := by
    decide +kernel
  have row := List.all_eq_true.mp (List.all_eq_true.mp table f listed) s form
  obtain ⟨tokens, clean⟩ := of_decide_eq_true row
  rw [← tokens]
  exact spells_lex clean

theorem keyword_of_anyCase {f : Forms} (listed : f ∈ operatorForms ++ openingForms) {s : String}
    (form : s ∈ f.anyCase) : (s, f.make) ∈ foldedKeywords := by
  have table : ∀ f ∈ operatorForms ++ openingForms, ∀ s ∈ f.anyCase,
      (s, f.make) ∈ foldedKeywords := by simp [operatorForms, openingForms, foldedKeywords]
  exact table f listed s form

/-- What is written for tokens is lexed to tokens that these can be exchanged for. -/
theorem exists_spelled {forms : List Forms} (known : forms ⊆ operatorForms ++ openingForms)
    {R : Token → Token → Prop} (same : ∀ t, R t t)
    (kept : ∀ f ∈ forms, ∀ x y, R (f.make x) (f.make y)) {ts : List Token} {ws : List (List Char)}
    (h : List.Forall₂ (WrittenAs forms) ts ws) :
    ∃ us, List.Forall₂ R ts us ∧ List.Forall₂ (fun w u => Spells w [u]) ws us := by
  induction h with
  | nil => exact ⟨[], .nil, .nil⟩
  | @cons t w ts ws first rest ih =>
    obtain ⟨us, related, spelled⟩ := ih
    cases first with
    | same spelling => exact ⟨t :: us, .cons (same t) related, .cons spelling.spells spelled⟩
    | @exact f listed x made form =>
      have alone := spells_exactForm (known listed) form
      rw [String.toList_ofList] at alone
      rw [made]
      exact ⟨_, .cons (kept f listed x _) related, .cons alone spelled⟩
    | @anyCase f listed x made s form letters =>
      have alone := spells_keyword (keyword_of_anyCase (known listed) form) letters
      rw [made]
      exact ⟨_, .cons (kept f listed x _) related, .cons alone spelled⟩

end Token

end TemporalQuery
