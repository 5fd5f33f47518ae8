/-!
# Hexadecimal numbers
-/

namespace TemporalQuery.Text

def hexPadded (width n : Nat) : List Char :=
  let digits := Nat.toDigits 16 n
  List.replicate (width - digits.length) '0' ++ digits

end TemporalQuery.Text
