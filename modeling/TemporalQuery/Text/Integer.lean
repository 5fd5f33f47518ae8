import TemporalQuery.Text.Blank
import TemporalQuery.Text.Digit

/-!
# Integers in words

Decimal digits of any script after an optional sign, with single underscores between them and blanks
around. The information separators, though blank, are not allowed.
-/

namespace TemporalQuery.Text

/-- Digits, continuing the number `n`; `expectsDigit` says that no number may end here. -/
def digitsFrom (n : Nat) (expectsDigit : Bool) : List Char → Option Nat
  | [] => if expectsDigit then none else some n
  | '_' :: cs => if expectsDigit then none else digitsFrom n true cs
  | c :: cs => (decimalDigit? c).bind fun d => digitsFrom (10 * n + d % 10) false cs

def isSeparator (c : Char) : Bool := 0x1c ≤ c.toNat ∧ c.toNat ≤ 0x1f

def parseInt? (s : String) : Option Int :=
  let cs := s.toList
  if cs.any isSeparator then none
  else match trim cs with
    | '-' :: cs => (digitsFrom 0 true cs).map fun n => -(n : Int)
    | '+' :: cs => (digitsFrom 0 true cs).map Int.ofNat
    | cs => (digitsFrom 0 true cs).map Int.ofNat

end TemporalQuery.Text
