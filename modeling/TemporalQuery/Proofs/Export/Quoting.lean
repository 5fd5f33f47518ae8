import Mathlib.Algebra.Group.Nat.Defs
import TemporalQuery.Json

/-!
# Texts between quotes

Each character of a text has an escape of its own, none of which starts with a quote or is the start of
another. So a quoted text says which text it is and where it ends (`Json.quote_append_inj`).
-/

namespace TemporalQuery

/-! ### Hexadecimal numbers -/

namespace Text

def hexValue (c : Char) : Nat := if c.isDigit then c.toNat - 48 else c.toNat - 87

def ofHex (cs : List Char) : Nat := cs.foldl (fun n c => 16 * n + hexValue c) 0

theorem hexValue_digitChar {n : Nat} (small : n < 16) : hexValue n.digitChar = n := by
  have all : ∀ n < 16, hexValue n.digitChar = n := by decide
  exact all n small

theorem ofHex_concat (cs : List Char) (c : Char) : ofHex (cs ++ [c]) = 16 * ofHex cs + hexValue c := by
  simp only [ofHex, List.foldl_append, List.foldl_cons, List.foldl_nil]

theorem ofHex_toDigits (n : Nat) : ofHex (Nat.toDigits 16 n) = n := by
  induction n using Nat.strongRecOn with
  | ind n ih =>
    rw [Nat.toDigits_eq_if (by decide)]
    split
    · rename_i small
      exact (ofHex_concat [] _).trans (by rw [hexValue_digitChar small]; exact Nat.zero_add n)
    · have quotient := ih (n / 16) (by omega)
      rw [ofHex_concat, quotient, hexValue_digitChar (Nat.mod_lt n (by decide))]
      exact Nat.div_add_mod n 16

theorem ofHex_zeros (k : Nat) (cs : List Char) : ofHex (List.replicate k '0' ++ cs) = ofHex cs := by
  induction k with
  | zero => rfl
  | succ k ih => exact ih

theorem ofHex_hexPadded (width n : Nat) : ofHex (hexPadded width n) = n :=
  (ofHex_zeros _ _).trans (ofHex_toDigits n)

theorem length_hexPadded {width n : Nat} (positive : 0 < width) (small : n < 16 ^ width) :
    (hexPadded width n).length = width := by
  have short : (Nat.toDigits 16 n).length ≤ width :=
    (Nat.length_toDigits_le_iff (by decide) positive).mpr small
  rw [hexPadded, List.length_append, List.length_replicate]
  omega

/-- Numbers written with the same number of digits can be told apart and from what follows. -/
theorem hexPadded_append_inj {width n m : Nat} {rest rest' : List Char} (positive : 0 < width)
    (small : n < 16 ^ width) (small' : m < 16 ^ width)
    (same : hexPadded width n ++ rest = hexPadded width m ++ rest') : n = m ∧ rest = rest' := by
  have lengths : (hexPadded width n).length = (hexPadded width m).length := by
    rw [length_hexPadded positive small, length_hexPadded positive small']
  obtain ⟨digits, behind⟩ := List.append_inj same lengths
  have numbers := congrArg ofHex digits
  rw [ofHex_hexPadded, ofHex_hexPadded] at numbers
  exact ⟨numbers, behind⟩

end Text

/-! ### Characters -/

namespace Json

/-- The characters with an escape of one letter, and the letter. -/
def escapeLetters : List (Char × Char) :=
  [('"', '"'), ('\\', '\\'), ('\n', 'n'), ('\r', 'r'), ('\t', 't'), ('\x08', 'b'), ('\x0c', 'f')]

def escapedUnit (n : Nat) : List Char := '\\' :: 'u' :: Text.hexPadded 4 n

/-- How a character can be written between quotes. -/
inductive Escape (c : Char) : List Char → Prop
  | plain (noQuote : c ≠ '"') (noSlash : c ≠ '\\') : Escape c [c]
  | letter (l : Char) (known : (c, l) ∈ escapeLetters) : Escape c ['\\', l]
  | unit (basic : c.toNat < 0x10000) : Escape c (escapedUnit c.toNat)
  | units (k : Nat) (beyond : c.toNat = 0x10000 + k) :
      Escape c (escapedUnit (0xd800 + k / 0x400) ++ escapedUnit (0xdc00 + k % 0x400))

theorem escape_escapeChar (c : Char) : Escape c (escapeChar c) := by
  unfold escapeChar
  split
  · exact .letter _ (by decide)
  · exact .letter _ (by decide)
  · exact .letter _ (by decide)
  · exact .letter _ (by decide)
  · exact .letter _ (by decide)
  · exact .letter _ (by decide)
  · exact .letter _ (by decide)
  · rename_i noQuote noSlash _ _ _ _ _
    dsimp only
    split
    · exact .plain noQuote noSlash
    · split
      · rename_i basic
        exact .unit basic
      · rename_i beyond
        exact .units _ (by omega)

theorem escapeChar_ne_quote (c : Char) : ∃ d ds, escapeChar c = d :: ds ∧ d ≠ '"' := by
  have escape := escape_escapeChar c
  cases escaped : escapeChar c with
  | nil => rw [escaped] at escape; cases escape
  | cons d ds =>
    rw [escaped] at escape
    refine ⟨d, ds, rfl, ?_⟩
    cases escape with
    | plain noQuote noSlash => exact noQuote
    | letter | unit | units => decide

theorem eq_of_escapeLetters {c c' l : Char} (known : (c, l) ∈ escapeLetters)
    (known' : (c', l) ∈ escapeLetters) : c = c' := by
  have unique : escapeLetters.all (fun r => escapeLetters.all fun r' =>
      decide (r.2 = r'.2 → r.1 = r'.1)) = true := by decide
  have first := List.all_eq_true.mp (List.all_eq_true.mp unique _ known) _ known'
  exact of_decide_eq_true first rfl

theorem ne_of_escapeLetters {c l : Char} (known : (c, l) ∈ escapeLetters) : l ≠ 'u' := by
  have all : escapeLetters.all (fun r => decide (r.2 ≠ 'u')) = true := by decide
  exact of_decide_eq_true (List.all_eq_true.mp all _ known)

theorem escapedUnit_append_inj {n m : Nat} {rest rest' : List Char} (small : n < 0x10000)
    (small' : m < 0x10000) (same : escapedUnit n ++ rest = escapedUnit m ++ rest') :
    n = m ∧ rest = rest' :=
  Text.hexPadded_append_inj (by decide) small small' (List.cons.inj (List.cons.inj same).2).2

/-- No character is numbered like a surrogate. -/
theorem not_surrogate (c : Char) : c.toNat < 0xd800 ∨ 0xdfff < c.toNat ∧ c.toNat < 0x110000 := c.valid

/-- One unit is not the first of two. -/
theorem ne_of_units {c c' : Char} {k : Nat} {rest rest' : List Char} (basic : c.toNat < 0x10000)
    (beyond : c'.toNat = 0x10000 + k) :
    escapedUnit c.toNat ++ rest ≠ escapedUnit (0xd800 + k / 0x400) ++ rest' := by
  intro same
  have valid := not_surrogate c
  have valid' := not_surrogate c'
  obtain ⟨surrogate, _⟩ := escapedUnit_append_inj basic (by omega) same
  omega

/-- Two escapes are told apart, and from whatever follows them. -/
theorem Escape.append_inj {c c' : Char} {cs cs' rest rest' : List Char} (h : Escape c cs)
    (h' : Escape c' cs') (same : cs ++ rest = cs' ++ rest') : c = c' ∧ rest = rest' := by
  -- Two escapes that start alike are of one kind: only a pair of units starts with a surrogate.
  cases h with
  | plain _ noSlash =>
    cases h' with
    | plain => exact List.cons.inj same
    | letter | unit | units => exact absurd (List.cons.inj same).1 noSlash
  | letter l known =>
    cases h' with
    | plain _ noSlash => exact absurd (List.cons.inj same).1.symm noSlash
    | letter l' known' =>
      obtain ⟨rfl, behind⟩ := List.cons.inj (List.cons.inj same).2
      exact ⟨eq_of_escapeLetters known known', behind⟩
    | unit | units =>
      exact absurd (List.cons.inj (List.cons.inj same).2).1 (ne_of_escapeLetters known)
  | unit basic =>
    cases h' with
    | plain _ noSlash => exact absurd (List.cons.inj same).1.symm noSlash
    | letter l' known' =>
      exact absurd (List.cons.inj (List.cons.inj same).2).1.symm (ne_of_escapeLetters known')
    | unit basic' =>
      obtain ⟨code, behind⟩ := escapedUnit_append_inj basic basic' same
      exact ⟨Char.toNat_inj.mp code, behind⟩
    | units k beyond =>
      rw [List.append_assoc] at same
      exact absurd same (ne_of_units basic beyond)
  | units k beyond =>
    cases h' with
    | plain _ noSlash => exact absurd (List.cons.inj same).1.symm noSlash
    | letter l' known' =>
      exact absurd (List.cons.inj (List.cons.inj same).2).1.symm (ne_of_escapeLetters known')
    | unit basic' =>
      rw [List.append_assoc] at same
      exact absurd same.symm (ne_of_units basic' beyond)
    | units k' beyond' =>
      have valid := not_surrogate c
      have valid' := not_surrogate c'
      rw [List.append_assoc, List.append_assoc] at same
      obtain ⟨high, second⟩ := escapedUnit_append_inj (by omega) (by omega) same
      obtain ⟨low, behind⟩ := escapedUnit_append_inj (by omega) (by omega) second
      have code : c.toNat = c'.toNat := by omega
      exact ⟨Char.toNat_inj.mp code, behind⟩

/-! ### Texts -/

theorem escaped_append_inj {cs cs' rest rest' : List Char}
    (same : cs.flatMap escapeChar ++ '"' :: rest = cs'.flatMap escapeChar ++ '"' :: rest') :
    cs = cs' ∧ rest = rest' := by
  induction cs generalizing cs' with
  | nil =>
    cases cs' with
    | nil => exact ⟨rfl, (List.cons.inj same).2⟩
    | cons c' cs' =>
      obtain ⟨d, ds, escaped, noQuote⟩ := escapeChar_ne_quote c'
      rw [List.flatMap_cons, escaped] at same
      exact absurd (List.cons.inj same).1.symm noQuote
  | cons c cs ih =>
    cases cs' with
    | nil =>
      obtain ⟨d, ds, escaped, noQuote⟩ := escapeChar_ne_quote c
      rw [List.flatMap_cons, escaped] at same
      exact absurd (List.cons.inj same).1 noQuote
    | cons c' cs' =>
      rw [List.flatMap_cons, List.flatMap_cons, List.append_assoc, List.append_assoc] at same
      obtain ⟨rfl, behind⟩ := (escape_escapeChar c).append_inj (escape_escapeChar c') same
      obtain ⟨rfl, rest⟩ := ih behind
      exact ⟨rfl, rest⟩

theorem quote_append_inj {s s' : String} {rest rest' : List Char}
    (same : (quote s).toList ++ rest = (quote s').toList ++ rest') : s = s' ∧ rest = rest' := by
  simp only [quote, String.toList_ofList, List.cons_append, List.append_assoc, List.nil_append] at same
  obtain ⟨chars, behind⟩ := escaped_append_inj (List.cons.inj same).2
  exact ⟨String.toList_inj.mp chars, behind⟩

end Json

end TemporalQuery
