import Mathlib
import TemporalQuery.Proofs.Export.Quoting

/-!
# Indented texts

The text of a value says which value it is of, whatever follows it but more of a number. So no two
values are written alike (`Json.indented_injective`).
-/

namespace TemporalQuery.Json

/-- The characters that a number is written with. -/
def isNumeral (c : Char) : Bool := c.isDigit || c = '-'

/-- What can follow a value without going on with a number at its end. -/
def Ends (rest : List Char) : Prop := ∀ c ∈ rest.head?, ¬ isNumeral c

/-- The text of `a` is told from all others, and from what follows it. -/
def Told {α : Type} (write : α → String) (a : α) : Prop :=
  ∀ b rest rest', Ends rest → Ends rest' →
    (write a).toList ++ rest = (write b).toList ++ rest' → a = b ∧ rest = rest'

/-! ### Numbers -/

theorem takeWhile_of_ends {w rest : List Char} (numerals : ∀ c ∈ w, isNumeral c) (ends : Ends rest) :
    (w ++ rest).takeWhile isNumeral = w := by
  rw [List.takeWhile_append_of_pos numerals]
  cases rest with
  | nil => simp
  | cons c rest =>
    have stops : ¬ isNumeral c := ends c rfl
    rw [List.takeWhile_cons_of_neg stops, List.append_nil]

theorem isNumeral_of_mem_toString {n : Int} {c : Char} (h : c ∈ (toString n).toList) :
    isNumeral c := by
  have ofNat {k : Nat} (digit : c ∈ k.repr.toList) : isNumeral c := by
    rw [Nat.toList_repr] at digit
    simp [isNumeral, Nat.isDigit_of_mem_toDigits (by decide) (by decide) digit]
  rw [Int.toString_eq_repr, Int.repr_eq_if] at h
  split at h
  · exact ofNat h
  · rw [String.toList_append] at h
    rcases List.mem_append.mp h with minus | digit
    · rw [List.mem_singleton.mp minus]
      rfl
    · exact ofNat digit

theorem toList_toString_ne_nil (n : Int) : (toString n).toList ≠ [] := by
  rw [Int.toString_eq_repr, Int.repr_eq_if]
  split
  · rw [Nat.toList_repr]
    exact Nat.toDigits_ne_nil
  · rw [String.toList_append]
    exact List.cons_ne_nil _ _

theorem told_toString (n : Int) : Told (toString (α := Int)) n := by
  intro m rest rest' ends ends' same
  have numbers := congrArg (List.takeWhile isNumeral) same
  rw [takeWhile_of_ends (fun _ => isNumeral_of_mem_toString) ends,
    takeWhile_of_ends (fun _ => isNumeral_of_mem_toString) ends'] at numbers
  rw [numbers] at same
  have shown : n.repr = m.repr := String.toList_inj.mp numbers
  exact ⟨Int.repr_inj.mp shown, List.append_cancel_left same⟩

/-! ### Lines -/

def newline (depth : Nat) : List Char := '\n' :: List.replicate (2 * depth) ' '

/-- The lines after the first, each with the comma in front of it. -/
def tails {α : Type} (write : α → String) (depth : Nat) (as : List α) : List Char :=
  as.flatMap fun a => ',' :: (newline depth ++ (write a).toList)

theorem tails_cons {α : Type} (write : α → String) (depth : Nat) (a : α) (as : List α) :
    tails write depth (a :: as) =
      ',' :: (newline depth ++ ((write a).toList ++ tails write depth as)) := by
  simp [tails]

theorem intercalate_cons {α : Type} (write : α → String) (depth : Nat) (a : α) (as : List α) :
    (',' :: newline depth).intercalate ((write a).toList :: as.map (String.toList ∘ write)) =
      (write a).toList ++ tails write depth as := by
  induction as generalizing a with
  | nil => simp [tails]
  | cons b bs ih =>
    rw [List.map_cons, List.intercalate_cons_cons, Function.comp_apply, ih]
    simp [tails]

theorem toList_block_nil (opening closing : String) (depth : Nat) :
    (block opening closing depth []).toList = opening.toList ++ closing.toList := by
  simp [block]

theorem toList_block_cons {α : Type} (opening closing : String) (depth : Nat) (write : α → String)
    (a : α) (as : List α) :
    (block opening closing depth ((a :: as).map write)).toList =
      opening.toList ++ (newline (depth + 1) ++ ((write a).toList ++
        (tails write (depth + 1) as ++ (newline depth ++ closing.toList)))) := by
  have lines := intercalate_cons write (depth + 1) a as
  simp only [newline] at lines
  simp [block, newline, String.toList_intercalate, lines]

theorem exists_toList_block (opening closing : String) (depth : Nat) (lines : List String) :
    ∃ rest, (block opening closing depth lines).toList = opening.toList ++ rest := by
  cases lines with
  | nil => exact ⟨_, toList_block_nil opening closing depth⟩
  | cons line lines =>
    have block := toList_block_cons opening closing depth id line lines
    rw [List.map_id] at block
    exact ⟨_, block⟩

theorem ends_tails {α : Type} {write : α → String} {depth : Nat} {as : List α} {rest : List Char} :
    Ends (tails write depth as ++ '\n' :: rest) := by
  intro c first
  cases as with
  | nil =>
    obtain rfl : '\n' = c := Option.some.inj first
    decide
  | cons a as =>
    obtain rfl : ',' = c := Option.some.inj first
    decide

theorem told_tails {α : Type} {write : α → String} {depth : Nat} {as bs : List α}
    {rest rest' : List Char} (told : ∀ a ∈ as, Told write a)
    (same : tails write depth as ++ '\n' :: rest = tails write depth bs ++ '\n' :: rest') :
    as = bs ∧ rest = rest' := by
  induction as generalizing bs with
  | nil =>
    cases bs with
    | nil => exact ⟨rfl, (List.cons.inj same).2⟩
    | cons b bs => exact absurd (List.cons.inj same).1 (by decide)
  | cons a as ih =>
    cases bs with
    | nil => exact absurd (List.cons.inj same).1 (by decide)
    | cons b bs =>
      simp only [tails_cons, List.cons_append, List.append_assoc] at same
      have line := List.append_cancel_left (List.cons.inj same).2
      obtain ⟨rfl, behind⟩ := told a (by simp) b _ _ ends_tails ends_tails line
      obtain ⟨rfl, rest⟩ := ih (fun a member => told a (by simp [member])) behind
      exact ⟨rfl, rest⟩

/-- A closing bracket is no line break, so an empty block is told from all others. -/
theorem told_block {α : Type} {write : α → String} {opening closing : String} {c : Char} {depth : Nat}
    {as : List α} (told : ∀ a ∈ as, Told write a) (bracket : closing.toList = [c]) (visible : c ≠ '\n') :
    Told (fun as => block opening closing depth (as.map write)) as := by
  intro bs rest rest' _ _ same
  cases as with
  | nil =>
    cases bs with
    | nil => exact ⟨rfl, List.append_cancel_left same⟩
    | cons b bs =>
      simp only [List.map_nil, toList_block_nil, toList_block_cons, List.append_assoc, bracket] at same
      have first := (List.cons.inj (List.append_cancel_left same)).1
      exact absurd first visible
  | cons a as =>
    cases bs with
    | nil =>
      simp only [List.map_nil, toList_block_nil, toList_block_cons, List.append_assoc, bracket] at same
      have first := (List.cons.inj (List.append_cancel_left same)).1
      exact absurd first.symm visible
    | cons b bs =>
      simp only [toList_block_cons, List.append_assoc] at same
      have line := List.append_cancel_left (List.append_cancel_left same)
      obtain ⟨rfl, behind⟩ := told a (by simp) b _ _ ends_tails ends_tails line
      obtain ⟨rfl, closed⟩ := told_tails (fun a member => told a (by simp [member])) behind
      exact ⟨rfl, List.append_cancel_left (List.append_cancel_left closed)⟩

/-! ### Values -/

theorem indentedItems_eq_map (depth : Nat) (items : List Json) :
    indentedItems depth items = items.map (indented depth) := by
  induction items with
  | nil => rfl
  | cons j js ih => rw [indentedItems, ih, List.map_cons]

def indentedField (depth : Nat) (field : String × Json) : String :=
  quote field.1 ++ ": " ++ field.2.indented depth

theorem indentedFields_eq_map (depth : Nat) (fields : List (String × Json)) :
    indentedFields depth fields = fields.map (indentedField depth) := by
  induction fields with
  | nil => rfl
  | cons field fields ih => rw [indentedFields, ih, List.map_cons, indentedField]

theorem told_field {depth : Nat} {key : String} {j : Json} (told : Told (indented depth) j) :
    Told (indentedField depth) (key, j) := by
  intro field rest rest' ends ends' same
  simp only [indentedField, String.toList_append, List.append_assoc] at same
  obtain ⟨keys, behind⟩ := quote_append_inj same
  obtain ⟨values, after⟩ := told field.2 rest rest' ends ends' (List.append_cancel_left behind)
  exact ⟨Prod.ext keys values, after⟩

/-- One character for each kind of value. -/
def mark : Json → Char
  | null => 'n'
  | bool _ => 'b'
  | int _ => '0'
  | str _ => '"'
  | arr _ => '['
  | obj _ => '\x7b'

/-- The mark of the values whose text starts with `c`. -/
def markOf (c : Char) : Char :=
  if isNumeral c then '0' else if c = 't' ∨ c = 'f' then 'b' else c

theorem markOf_head (depth : Nat) (j : Json) :
    ∃ c cs, (j.indented depth).toList = c :: cs ∧ markOf c = j.mark := by
  cases j with
  | null => exact ⟨'n', "ull".toList, by rw [indented]; rfl, rfl⟩
  | bool b =>
    cases b with
    | false => exact ⟨'f', "alse".toList, by rw [indented]; rfl, rfl⟩
    | true => exact ⟨'t', "rue".toList, by rw [indented]; rfl, rfl⟩
  | int n =>
    rw [indented]
    cases shown : (toString n).toList with
    | nil => exact absurd shown (toList_toString_ne_nil n)
    | cons c cs =>
      have numeral : isNumeral c :=
        isNumeral_of_mem_toString (by rw [shown]; exact List.mem_cons_self)
      exact ⟨c, cs, rfl, if_pos numeral⟩
  | str s =>
    rw [indented]
    exact ⟨'"', _, String.toList_ofList, rfl⟩
  | arr items =>
    rw [indented]
    obtain ⟨rest, block⟩ := exists_toList_block "[" "]" depth (indentedItems (depth + 1) items)
    exact ⟨'[', rest, block, rfl⟩
  | obj fields =>
    rw [indented]
    obtain ⟨rest, block⟩ := exists_toList_block "\x7b" "\x7d" depth (indentedFields (depth + 1) fields)
    exact ⟨'\x7b', rest, block, rfl⟩

theorem mark_eq {depth : Nat} {j k : Json} {rest rest' : List Char}
    (same : (j.indented depth).toList ++ rest = (k.indented depth).toList ++ rest') :
    j.mark = k.mark := by
  obtain ⟨c, cs, text, mark⟩ := markOf_head depth j
  obtain ⟨c', cs', text', mark'⟩ := markOf_head depth k
  rw [text, text'] at same
  rw [← mark, ← mark', (List.cons.inj same).1]

/-- It is enough to tell a value from those of its kind. -/
theorem told_of_kind {α : Type} {depth : Nat} {make : α → Json} {write : α → String} {a : α}
    (written : ∀ a, (make a).indented depth = write a)
    (kind : ∀ k : Json, (make a).mark = k.mark → ∃ b, k = make b) (told : Told write a) :
    Told (indented depth) (make a) := by
  intro k rest rest' ends ends' same
  obtain ⟨b, rfl⟩ := kind k (mark_eq same)
  rw [written, written] at same
  obtain ⟨rfl, behind⟩ := told b rest rest' ends ends' same
  exact ⟨rfl, behind⟩

theorem told_null (depth : Nat) : Told (indented depth) null := by
  intro k rest rest' _ _ same
  cases k with
  | null => exact ⟨rfl, List.append_cancel_left same⟩
  | bool | int | str | arr | obj => exact absurd (mark_eq same) (by simp [mark])

theorem told_bool (depth : Nat) (b : Bool) : Told (indented depth) (bool b) := by
  refine told_of_kind (fun b => by rw [indented]) (fun k kinds => ?_) ?_
  · cases k <;> simp_all [mark]
  · intro b' rest rest' _ _ same
    cases b with
    | false =>
      cases b' with
      | false => exact ⟨rfl, List.append_cancel_left same⟩
      | true => exact absurd (List.cons.inj same).1 (by decide)
    | true =>
      cases b' with
      | false => exact absurd (List.cons.inj same).1 (by decide)
      | true => exact ⟨rfl, List.append_cancel_left same⟩

theorem told_int (depth : Nat) (n : Int) : Told (indented depth) (int n) := by
  refine told_of_kind (fun n => by rw [indented]) (fun k kinds => ?_) (told_toString n)
  cases k <;> simp_all [mark]

theorem told_str (depth : Nat) (s : String) : Told (indented depth) (str s) := by
  refine told_of_kind (fun s => by rw [indented]) (fun k kinds => ?_) ?_
  · cases k <;> simp_all [mark]
  · intro s' rest rest' _ _ same
    exact quote_append_inj same

theorem told_arr {depth : Nat} {items : List Json}
    (told : ∀ j ∈ items, Told (indented (depth + 1)) j) : Told (indented depth) (arr items) := by
  refine told_of_kind (fun items => by rw [indented, indentedItems_eq_map]) (fun k kinds => ?_)
    (told_block told rfl (by decide))
  cases k <;> simp_all [mark]

theorem told_obj {depth : Nat} {fields : List (String × Json)}
    (told : ∀ field ∈ fields, Told (indentedField (depth + 1)) field) :
    Told (indented depth) (obj fields) := by
  refine told_of_kind (fun fields => by rw [indented, indentedFields_eq_map]) (fun k kinds => ?_)
    (told_block told rfl (by decide))
  cases k <;> simp_all [mark]

mutual

theorem told_indented (depth : Nat) : ∀ j, Told (indented depth) j
  | null => told_null depth
  | bool b => told_bool depth b
  | int n => told_int depth n
  | str s => told_str depth s
  | arr items => told_arr (told_items (depth + 1) items)
  | obj fields => told_obj (told_fields (depth + 1) fields)

theorem told_items (depth : Nat) : ∀ items : List Json, ∀ j ∈ items, Told (indented depth) j
  | [] => by simp
  | j :: js => List.forall_mem_cons.mpr ⟨told_indented depth j, told_items depth js⟩

theorem told_fields (depth : Nat) :
    ∀ fields : List (String × Json), ∀ field ∈ fields, Told (indentedField depth) field
  | [] => by simp
  | (_, j) :: fields =>
    List.forall_mem_cons.mpr ⟨told_field (told_indented depth j), told_fields depth fields⟩

end

theorem indented_injective (depth : Nat) : Function.Injective (indented depth) := by
  intro j k same
  have ends : Ends [] := by simp [Ends]
  exact (told_indented depth j k [] [] ends ends (by rw [same])).1

end TemporalQuery.Json
