import TemporalQuery.Text.CaseTable
import TemporalQuery.Text.Range

/-!
# Title case

A character after a cased one is lowered, every other gets its title case form. Lean's own letters
are cased (`isCased_of_isAlpha`).
-/

namespace TemporalQuery.Text

def isCased (c : Char) : Bool := inRanges casedRanges c.toNat

def isCaseIgnorable (c : Char) : Bool := inRanges ignorableRanges c.toNat

theorem isCased_of_isAlpha {c : Char} (h : c.isAlpha) : isCased c := by
  have shape : c.isAlpha = (decide (65 ≤ c.val ∧ c.val ≤ 90) ||
      (decide (97 ≤ c.val) && decide (c.val ≤ 122))) := rfl
  simp only [shape, Bool.or_eq_true, Bool.and_eq_true, decide_eq_true_eq,
    UInt32.le_iff_toNat_le] at h
  rcases h with ⟨lo, hi⟩ | ⟨lo, hi⟩
  · have lo : 0x41 ≤ c.toNat := lo
    have hi : c.toNat ≤ 0x5a := hi
    exact List.any_eq_true.2 ⟨(0x41, 0x5a), by decide, by simp [lo, hi]⟩
  · have lo : 0x61 ≤ c.toNat := lo
    have hi : c.toNat ≤ 0x7a := hi
    exact List.any_eq_true.2 ⟨(0x61, 0x7a), by decide, by simp [lo, hi]⟩

/-- Maps a character by a table of sequences, else by a table of runs, else to itself. -/
def mapCase (sequences : List (Nat × List Nat)) (runs : List (Nat × Nat × Nat × Nat)) (c : Char) :
    List Char :=
  let n := c.toNat
  match sequences.lookup n with
  | some ns => ns.map Char.ofNat
  | none =>
    match runs.find? fun (first, last, step, _) => first ≤ n && n ≤ last && (n - first) % step == 0 with
    | some (first, _, _, target) => [Char.ofNat (target + (n - first))]
    | none => [c]

/-- Whether a sigma ends a word: a cased character comes before it and none after, but for ignorable
ones. `before` is nearest first. -/
def endsWord (before after : List Char) : Bool :=
  (before.dropWhile isCaseIgnorable).head?.any isCased &&
    !(after.dropWhile isCaseIgnorable).head?.any isCased

def lowered (before after : List Char) (c : Char) : List Char :=
  if c = 'Σ' then [if endsWord before after then 'ς' else 'σ'] else mapCase lowerSequences lowerRuns c

/-- Title case of what follows `before`, which is nearest first. -/
def titledAfter (before : List Char) : List Char → List Char
  | [] => []
  | c :: cs =>
    (if before.head?.any isCased then lowered before cs c else mapCase titleSequences titleRuns c) ++
      titledAfter (c :: before) cs

def titled (s : String) : String := String.ofList (titledAfter [] s.toList)

end TemporalQuery.Text
