import TemporalQuery.Proofs.Canonical.Inline
import TemporalQuery.Proofs.Text.Utf8
import TemporalQuery.QueryFile

/-!
# Queries written to a file

Canonical texts on lines of their own, between blank lines and comments, are found again with their line
numbers, and any text that is read as a query is kept when it is a line (`QueryFile.finds_written`).
-/

namespace TemporalQuery.QueryFile

open Text (Unbroken LineEnding)

/-- A line of a query file. -/
inductive Line
  | query (q : Query)
  | skipped (text : List Char)

namespace Line

def text : Line → List Char
  | query q => q.text.toList
  | skipped cs => cs

def query? : Line → Option Query
  | query q => some q
  | skipped _ => none

/-- The query is one that is read from some text. What is skipped is blank or a comment. -/
def Valid : Line → Prop
  | query q => ∃ text, Query.parse text = .ok q
  | skipped cs => Unbroken cs ∧
      ((∀ c ∈ cs, Text.isBlank c) ∨ (cs.dropWhile Text.isBlank).head? = some '#')

theorem Valid.unbroken {l : Line} (h : l.Valid) : Unbroken l.text := by
  cases l with
  | query q =>
    obtain ⟨_, parsed⟩ := h
    exact (Query.inline_text (Query.writable_of_parse parsed)).unbroken
  | skipped cs => exact h.1

end Line

def itemAt (path : String) (n : Nat) (text : String) : Item := ⟨path ++ ":" ++ toString n, text⟩

/-! ### The lines of a file -/

section

variable {path : String} {l : List Char} {n : Nat} {rest : List (List Char × Nat)}

theorem isQuery_eq_false_iff {line : List Char} :
    isQuery line = false ↔ ∀ c ∈ line.head?, c = '#' := by
  cases line <;> simp [isQuery]

theorem ofLines_kept (kept : isQuery (Text.trim l)) :
    ofLines path ((l, n) :: rest) =
      itemAt path n (String.ofList (Text.trim l)) :: ofLines path rest := by
  simp [ofLines, kept, itemAt]

theorem ofLines_skipped (skipped : isQuery (Text.trim l) = false) :
    ofLines path ((l, n) :: rest) = ofLines path rest := by
  simp [ofLines, skipped]

theorem ofLines_append (path : String) (front back : List (List Char × Nat)) :
    ofLines path (front ++ back) = ofLines path front ++ ofLines path back := by
  simp [ofLines]

theorem ofLines_empty {lost : List (List Char)} (empty : ∀ l ∈ lost, l = []) (n : Nat) :
    ofLines path (lost.zipIdx n) = [] := by
  induction lost generalizing n with
  | nil => rfl
  | cons l lost ih =>
    obtain ⟨rfl, others⟩ := List.forall_mem_cons.mp empty
    rw [List.zipIdx_cons, ofLines_skipped rfl, ih others]

end

/-- The lines of a written file are those that were written. -/
theorem ofBytes_written (path : String) (e : LineEnding) (closed : Bool) {ls : List (List Char)}
    (unbroken : ∀ l ∈ ls, Unbroken l) :
    ofBytes path (Text.encodeUtf8 (e.written closed ls)) = .ok (ofLines path (ls.zipIdx 1)) := by
  obtain ⟨lost, whole, empty⟩ := e.exists_lines_written closed unbroken
  have same : ofLines path (ls.zipIdx 1) = ofText path (e.written closed ls) := by
    rw [whole, List.zipIdx_append, ofLines_append, ofLines_empty empty, List.append_nil, ← whole]
    rfl
  rw [ofBytes, Text.decodeUtf8_encodeUtf8, same]
  rfl

/-! ### What is kept -/

variable {q : Query}

theorem isQuery_trim_of_parse {text : String} (h : Query.parse text = .ok q) :
    isQuery (Text.trim text.toList) := by
  have trimmed := Query.parse_trim h
  have nonempty := Query.ne_nil_of_parse trimmed
  have noComment := Query.head?_ne_hash_of_parse trimmed
  rw [String.toList_ofList] at nonempty noComment
  simp [isQuery, nonempty, noComment]

theorem isQuery_trim_of_skipped {cs : List Char} (h : (Line.skipped cs).Valid) :
    isQuery (Text.trim cs) = false := by
  rw [isQuery_eq_false_iff, Text.head?_trim]
  intro c first
  rcases h.2 with blank | comment
  · rw [List.dropWhile_eq_nil_iff.mpr blank] at first
    cases first
  · exact Option.some.inj (first.symm.trans comment)

/-- The items of the queries among lines of which the first has the number `n`. -/
def items (path : String) (n : Nat) (lines : List Line) : List Item :=
  (lines.zipIdx n).filterMap fun r => r.1.query?.map (itemAt path r.2 ·.text)

theorem items_query (path : String) (n : Nat) (q : Query) (lines : List Line) :
    items path n (.query q :: lines) = itemAt path n q.text :: items path (n + 1) lines := rfl

theorem items_skipped (path : String) (n : Nat) (cs : List Char) (lines : List Line) :
    items path n (.skipped cs :: lines) = items path (n + 1) lines := rfl

theorem ofLines_valid (path : String) (n : Nat) {lines : List Line} (valid : ∀ l ∈ lines, l.Valid) :
    ofLines path ((lines.map Line.text).zipIdx n) = items path n lines := by
  induction lines generalizing n with
  | nil => rfl
  | cons l lines ih =>
    obtain ⟨first, others⟩ := List.forall_mem_cons.mp valid
    rw [List.map_cons, List.zipIdx_cons]
    cases l with
    | query q =>
      obtain ⟨_, parsed⟩ := first
      have inline := Query.inline_text (Query.writable_of_parse parsed)
      have kept : isQuery (Text.trim q.text.toList) :=
        isQuery_trim_of_parse (Query.parse_text_same parsed)
      rw [Line.text, ofLines_kept kept, ih (n + 1) others, inline.trim_eq, String.ofList_toList,
        items_query]
    | skipped cs =>
      rw [Line.text, ofLines_skipped (isQuery_trim_of_skipped first), ih (n + 1) others, items_skipped]

theorem parse_items (path : String) (n : Nat) {lines : List Line} (valid : ∀ l ∈ lines, l.Valid) :
    (items path n lines).map (Query.parse ·.text) = (lines.filterMap Line.query?).map .ok := by
  induction lines generalizing n with
  | nil => rfl
  | cons l lines ih =>
    obtain ⟨first, others⟩ := List.forall_mem_cons.mp valid
    have read := ih (n + 1) others
    cases l with
    | query q =>
      obtain ⟨_, parsed⟩ := first
      have again := Query.parse_text_same parsed
      rw [items_query, List.map_cons, read]
      exact congrArg (· :: _) again
    | skipped cs => exact read

/-- Canonical texts, one a line between blank lines and comments, are found in order, each with the number
of its line, and are read as their queries. A text on one line that is read as a query is kept between any
lines, and trimmed is read as the same query. -/
theorem finds_written (path : String) (e : LineEnding) (closed : Bool) :
    (∀ lines : List Line, (∀ l ∈ lines, l.Valid) →
      ofBytes path (Text.encodeUtf8 (e.written closed (lines.map Line.text))) =
          .ok (items path 1 lines) ∧
        (items path 1 lines).map (Query.parse ·.text) = (lines.filterMap Line.query?).map .ok) ∧
    ∀ (text : String) (q : Query), Unbroken text.toList → Query.parse text = .ok q →
      let trimmed := String.ofList (Text.trim text.toList)
      Query.parse trimmed = .ok q ∧
        ∀ front back : List (List Char), (∀ l ∈ front, Unbroken l) → (∀ l ∈ back, Unbroken l) →
          ofBytes path (Text.encodeUtf8 (e.written closed (front ++ text.toList :: back))) =
            .ok (ofLines path (front.zipIdx 1) ++ itemAt path (front.length + 1) trimmed ::
              ofLines path (back.zipIdx (front.length + 2))) := by
  constructor
  · intro lines valid
    have unbroken : ∀ l ∈ lines.map Line.text, Unbroken l :=
      List.forall_mem_map.mpr fun l mem => (valid l mem).unbroken
    refine ⟨?_, parse_items path 1 valid⟩
    rw [ofBytes_written path e closed unbroken, ofLines_valid path 1 valid]
  · intro text q single parsed
    refine ⟨Query.parse_trim parsed, fun front back before behind => ?_⟩
    have unbroken : ∀ l ∈ front ++ text.toList :: back, Unbroken l :=
      List.forall_mem_append.mpr ⟨before, List.forall_mem_cons.mpr ⟨single, behind⟩⟩
    rw [ofBytes_written path e closed unbroken, List.zipIdx_append, ofLines_append, List.zipIdx_cons,
      ofLines_kept (isQuery_trim_of_parse parsed), Nat.add_comm 1 front.length]

def reached : Query where
  condition := .compare (.name "x") .eq (.int 1)
  quantifier := some .existential
  modality := some .eventually

/-- The first name would open a query without its quotes, as it does in `reached`. -/
def released : Query where
  condition := .binary .strongUntil (.bare (.name "E")) (.unary .nextState (.bare (.name "until")))

def notes : List Line :=
  [.skipped " \t#1 reached".toList, .query reached, .skipped " ".toList, .query released, .skipped []]

theorem finds_notes :
    (∀ l ∈ notes, l.Valid) ∧
    ofBytes "q.q" (Text.encodeUtf8 (LineEnding.both.written false (notes.map Line.text))) =
      .ok [⟨"q.q:2", "E F x = 1"⟩, ⟨"q.q:4", "\"E\" until next \"until\""⟩] ∧
    [Query.parse "E F x = 1", Query.parse "\"E\" until next \"until\""] = [.ok reached, .ok released] ∧
    Unbroken "\tE<> x=1 ".toList ∧ Query.parse "\tE<> x=1 " = .ok reached ∧
    Query.parse "E<> x=1" = .ok reached ∧
    (∀ l ∈ ["# \u00e9".toList, []], Unbroken l) ∧
    ofBytes "q.q" (Text.encodeUtf8
        (LineEnding.carriageReturn.written true ["# \u00e9".toList, [], "\tE<> x=1 ".toList])) =
      .ok [⟨"q.q:3", "E<> x=1"⟩] := by
  have readReached : Query.parse "\tE<> x=1 " = .ok reached := by decide +kernel
  have readReleased : Query.parse "'E' until next \"until\"" = .ok released := by decide +kernel
  have valid : ∀ l ∈ notes, l.Valid := by
    simp only [notes, List.forall_mem_cons]
    refine ⟨⟨by decide +kernel, .inr (by decide +kernel)⟩, ⟨_, readReached⟩,
      ⟨by decide +kernel, .inl (List.forall_mem_singleton.mpr (by decide))⟩, ⟨_, readReleased⟩,
      ⟨by decide +kernel, .inl (List.forall_mem_nil _)⟩, List.forall_mem_nil _⟩
  have single : Unbroken "\tE<> x=1 ".toList := by decide +kernel
  have above : ∀ l ∈ ["# \u00e9".toList, []], Unbroken l := by decide +kernel
  obtain ⟨found, read⟩ := (finds_written "q.q" .both false).1 notes valid
  obtain ⟨trimmed, kept⟩ := (finds_written "q.q" .carriageReturn true).2 _ _ single readReached
  have items : items "q.q" 1 notes =
      [⟨"q.q:2", "E F x = 1"⟩, ⟨"q.q:4", "\"E\" until next \"until\""⟩] := by decide +kernel
  refine ⟨valid, ?_, ?_, single, readReached, trimmed, above, ?_⟩
  · rw [found, items]
  · rw [items] at read
    exact read
  · exact kept _ [] above (List.forall_mem_nil _)

end TemporalQuery.QueryFile
