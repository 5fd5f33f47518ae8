import TemporalQuery.Proofs.Checking
import Mathlib.Data.List.Flatten

/-!
# Verbosity shows and hides

How much of a run is shown says nothing about how it ends. What is written at one level is written at
every higher one, with further lines in between (`check_shows_more`).
-/

namespace TemporalQuery

namespace Report

variable {v v' : Verbosity}

/-- An entry is shown whole or not at all, and stays shown at higher levels. -/
theorem Entry.shown_sublist (h : v.rank ≤ v'.rank) (e : Entry) : (e.shown v).Sublist (e.shown v') := by
  by_cases shown : v.shows e.threshold
  · have further : v'.shows e.threshold := decide_eq_true (Nat.le_trans (of_decide_eq_true shown) h)
    rw [Entry.shown, Entry.shown, if_pos shown, if_pos further]
  · rw [Entry.shown, if_neg shown]
    exact List.nil_sublist _

/-! ### Lines of a text -/

/-- The text split at its line feeds. -/
def linesOf (text : String) : List (List Char) := text.toList.splitOn '\n'

theorem splitOn_append_lineFeed (cs ds : List Char) :
    (cs ++ '\n' :: ds).splitOn '\n' = cs.splitOn '\n' ++ ds.splitOn '\n' := by
  simp only [List.splitOn_eq_splitOnP]
  exact List.splitOnP_append_cons cs ds rfl

theorem linesOf_unlines (lines : List String) :
    linesOf (unlines lines) = lines.flatMap linesOf ++ [[]] := by
  induction lines with
  | nil => rfl
  | cons line lines ih =>
    have text : (unlines (line :: lines)).toList = line.toList ++ '\n' :: (unlines lines).toList := by
      simp [unlines]
    rw [linesOf, text, splitOn_append_lineFeed, List.flatMap_cons, List.append_assoc, ← ih]
    rfl

theorem linesOf_unlines_sublist {lines more : List String} (h : lines.Sublist more) :
    (linesOf (unlines lines)).Sublist (linesOf (unlines more)) := by
  rw [linesOf_unlines, linesOf_unlines]
  exact (h.flatMap linesOf).append_right [[]]

end Report

namespace CommandLine

open Report

variable {s : Settings} {stored : String → Stored} {v v' : Verbosity}

theorem itemLines_sublist (h : v.rank ≤ v'.rank) (json : Bool) (item : QueryFile.Item) :
    (itemLines v json item).Sublist (itemLines v' json item) := by
  unfold itemLines
  refine (Entry.shown_sublist h _).append ?_
  cases Query.parse item.text with
  | error failure => exact Entry.shown_sublist h _
  | ok q =>
    exact ((Entry.shown_sublist h _).append (Entry.shown_sublist h _)).append (List.Sublist.refl _)

/-- Only statistics that are asked for are told apart from the level. -/
theorem closingLines_sublist (h : v.rank ≤ v'.rank) (statistics : List (String × Value)) :
    (closingLines v false statistics).Sublist (closingLines v' false statistics) := by
  simpa [closingLines] using Entry.shown_sublist h (.statistics statistics)

/-- The two options that say how much is shown. -/
structure Display where
  output : String := "normal"
  debugLevel : Nat := 0

def Display.level (d : Display) : Verbosity := .resolve d.output d.debugLevel

/-- The same queries and files, shown otherwise. -/
def Settings.shown (s : Settings) (d : Display) : Settings :=
  { s with output := d.output, debugLevel := some d.debugLevel }

theorem check_shown_of_items {all : List QueryFile.Item} (had : items s stored = .ok all)
    (plain : s.stats = false) (d : Display) :
    check (s.shown d) stored =
      ⟨if all.all (·.isAccepted) then 0 else 1,
        unlines ((Entry.info ("Checking " ++ toString all.length ++ " queries") []).shown d.level ++
          all.flatMap (itemLines d.level s.json) ++
          closingLines d.level false ((Tally.ofItems all).statistics all.length)), ""⟩ := by
  have had' : items (s.shown d) stored = .ok all := had
  rw [← plain]
  exact check_of_items had' rfl

theorem check_shown_of_error {e : CheckError} (failed : items s stored = .error e) (d : Display) :
    check (s.shown d) stored = ⟨2, "", "Error: " ++ e.message ++ "\n"⟩ := by
  have failed' : items (s.shown d) stored = .error e := failed
  exact check_of_error failed'

/-- However much of it is shown, a run ends alike and tells the same errors. What it writes at one level it
writes at every higher one, in the same order and with other lines in between. -/
theorem check_shows_more (plain : s.stats = false) (stored : String → Stored) (d d' : Display) :
    (check (s.shown d) stored).exitCode = (check (s.shown d') stored).exitCode ∧
      (check (s.shown d) stored).stderr = (check (s.shown d') stored).stderr ∧
      (d.level.rank ≤ d'.level.rank →
        (linesOf (check (s.shown d) stored).stdout).Sublist
          (linesOf (check (s.shown d') stored).stdout)) := by
  cases had : items s stored with
  | error e =>
    rw [check_shown_of_error had, check_shown_of_error had]
    exact ⟨rfl, rfl, fun _ => List.Sublist.refl _⟩
  | ok all =>
    rw [check_shown_of_items had plain, check_shown_of_items had plain]
    refine ⟨rfl, rfl, fun h => linesOf_unlines_sublist ?_⟩
    have opening := Entry.shown_sublist h (.info ("Checking " ++ toString all.length ++ " queries") [])
    have checked := List.Sublist.flatMap_right all fun item _ => itemLines_sublist h s.json item
    exact (opening.append checked).append (closingLines_sublist h _)

/-- A query with a line feed in it, and one that is rejected; the trees are asked for. -/
def twoLines : Settings := { queries := ["A F x\n= 1", "(y"], json := true }

/-- What is written of its first query if nothing else is shown. -/
def twoLinesTree : List String :=
  ["\x7b",
    "  \"quantifier\": \"A\",",
    "  \"modality\": \"F\",",
    "  \"bound\": null,",
    "  \"condition\": \x7b",
    "    \"type\": \"Comparison\",",
    "    \"left\": \x7b",
    "      \"type\": \"Name\",",
    "      \"identifier\": \"x\"",
    "    \x7d,",
    "    \"relop\": \"=\",",
    "    \"right\": \x7b",
    "      \"type\": \"IntConstant\",",
    "      \"value\": 1",
    "    \x7d",
    "  \x7d",
    "\x7d"]

/-- The debug level, which the word `silent` does not lower, shows the query on two lines. With the word
alone only the tree is left. Both runs end with 1, for the query that is rejected. -/
theorem check_twoLines :
    twoLines.stats = false ∧ Display.level ⟨"silent", 0⟩ = .silent ∧
      Display.level ⟨"silent", 3⟩ = .debug ∧
      check (twoLines.shown ⟨"silent", 0⟩) (fun _ => .missing) = ⟨1, unlines twoLinesTree, ""⟩ ∧
      check (twoLines.shown ⟨"silent", 3⟩) (fun _ => .missing) =
        ⟨1, unlines (["[INFO] Checking 2 queries", "[DEBUG] Reading arg1", "  text: A F x", "= 1",
            "[DEBUG] Tokens", "  types: ALWAYS FINALLY IDENT EQ INT", "OK: arg1: A F x = 1"] ++
          twoLinesTree ++
          ["[DEBUG] Reading arg2", "  text: (y",
            "ERROR: arg2: ParseError: Syntax error: unexpected end of query, unmatched '(' " ++
              "(line 1, column 1)",
            "=== Statistics ===", "  Queries: 2", "  Accepted: 1", "  Rejected: 1",
            "  Distinct Names: 1"]), ""⟩ ∧
      (check (twoLines.shown ⟨"silent", 0⟩) fun _ => .missing).exitCode =
        (check (twoLines.shown ⟨"silent", 3⟩) fun _ => .missing).exitCode ∧
      (linesOf (check (twoLines.shown ⟨"silent", 0⟩) fun _ => .missing).stdout).Sublist
        (linesOf (check (twoLines.shown ⟨"silent", 3⟩) fun _ => .missing).stdout) := by
  have plain : twoLines.stats = false := rfl
  obtain ⟨exitCode, _, lines⟩ :=
    check_shows_more plain (fun _ => .missing) ⟨"silent", 0⟩ ⟨"silent", 3⟩
  refine ⟨plain, rfl, rfl, ?silent, ?debug, exitCode, lines (by decide)⟩
  case silent => decide +kernel
  case debug => decide +kernel

end CommandLine

end TemporalQuery
