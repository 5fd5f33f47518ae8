import TemporalQuery.CommandLine.Check
import TemporalQuery.Proofs.Reading.Acceptance
import Mathlib.Data.List.Forall2
import Mathlib.Data.Set.Card

/-!
# A run checks each query by itself

An accepted text is lexed to its end, so listing its tokens never ends a run early, and visiting one query
only adds to what was there before (`Journal.visit_eq`). A whole run is one visit behind the other
(`Journal.ofItems_eq`), and at the normal level it has one line for each query (`check_each_alone`).
-/

namespace TemporalQuery

namespace QueryFile.Item

def isAccepted (item : Item) : Bool := (Query.parse item.text).isOk

/-- The line that tells of a query. -/
def record (item : Item) : String :=
  match Query.parse item.text with
  | .ok q => "OK: " ++ item.source ++ ": " ++ q.text
  | .error failure =>
    let e := failure.report item.text
    "ERROR: " ++ item.source ++ ": " ++ e.kind.label ++ ": " ++ e.report

end QueryFile.Item

namespace CommandLine

open Report

variable {s : Settings} {stored : String → Stored} {v : Verbosity} {json : Bool}

/-! ### One query -/

/-- The labels that are listed for a text. -/
def labelsOf (text : String) : String := " ".intercalate ((lex text).lexemes.map (·.token.label))

theorem tokenLabels_of_parse {text : String} {q : Query} (accepted : Query.parse text = .ok q) :
    tokenLabels text = .ok (labelsOf text) := by
  have clean : (lex text).fault = none := (Query.parse_eq_ok_iff.mp accepted).1
  simp only [tokenLabels, Lexed.error, clean, Option.map_none, labelsOf]

/-- What one query adds to the counts. -/
def Tally.add (t : Tally) (item : QueryFile.Item) : Tally :=
  match Query.parse item.text with
  | .ok q => t.accept q
  | .error _ => t.reject

/-- What is written about one query. -/
def itemLines (v : Verbosity) (json : Bool) (item : QueryFile.Item) : List String :=
  (Entry.debug ("Reading " ++ item.source) [("text", .text item.text)]).shown v ++
    match Query.parse item.text with
    | .error failure => (Entry.rejected item.source (failure.report item.text)).shown v
    | .ok q =>
      (Entry.debug "Tokens" [("types", .text (labelsOf item.text))]).shown v ++
        (Entry.accepted item.source q.text).shown v ++ if json then [q.tree.indented 0] else []

def Journal.add (v : Verbosity) (json : Bool) (j : Journal) (item : QueryFile.Item) : Journal :=
  ⟨j.lines ++ itemLines v json item, j.tally.add item⟩

theorem Journal.visit_eq (j : Journal) (item : QueryFile.Item) :
    j.visit v json item = .ok (j.add v json item) := by
  unfold Journal.visit
  cases read : Query.parse item.text with
  | error failure => simp [Journal.add, Tally.add, itemLines, read, Journal.write]
  | ok q =>
    rw [tokenLabels_of_parse read]
    simp [Journal.add, Tally.add, itemLines, read, Journal.write]

/-! ### All queries -/

theorem Journal.foldlM_visit (j : Journal) (items : List QueryFile.Item) :
    items.foldlM (Journal.visit v json) j = .ok (items.foldl (Journal.add v json) j) := by
  have never : Journal.visit v json = fun j item => pure (j.add v json item) := by
    funext j item
    exact j.visit_eq item
  rw [never, List.foldlM_pure]
  rfl

theorem Journal.foldl_add (j : Journal) (items : List QueryFile.Item) :
    items.foldl (Journal.add v json) j =
      ⟨j.lines ++ items.flatMap (itemLines v json), items.foldl Tally.add j.tally⟩ := by
  induction items generalizing j with
  | nil => simp
  | cons item items ih => simp [ih, Journal.add]

theorem Tally.foldl_counts (t : Tally) (items : List QueryFile.Item) :
    (items.foldl Tally.add t).accepted = t.accepted + items.countP (·.isAccepted) ∧
      (items.foldl Tally.add t).rejected = t.rejected + items.countP (!·.isAccepted) := by
  induction items generalizing t with
  | nil => exact ⟨rfl, rfl⟩
  | cons item items ih =>
    obtain ⟨accepted, rejected⟩ := ih (t.add item)
    rw [List.foldl_cons, accepted, rejected, List.countP_cons, List.countP_cons]
    cases read : Query.parse item.text with
    | ok q =>
      have known : item.isAccepted := by rw [QueryFile.Item.isAccepted, read]; rfl
      simp [Tally.add, Tally.accept, read, known]
      omega
    | error failure =>
      have known : item.isAccepted = false := by rw [QueryFile.Item.isAccepted, read]; rfl
      simp [Tally.add, Tally.reject, read, known]
      omega

theorem Tally.mem_names_foldl (t : Tally) (items : List QueryFile.Item) (x : String) :
    x ∈ (items.foldl Tally.add t).names ↔
      x ∈ t.names ∨ ∃ item ∈ items, ∃ q, Query.parse item.text = .ok q ∧ x ∈ q.names := by
  induction items generalizing t with
  | nil => simp
  | cons item items ih =>
    rw [List.foldl_cons, ih]
    cases read : Query.parse item.text with
    | ok q => simp [Tally.add, Tally.accept, read, or_assoc]
    | error failure => simp [Tally.add, Tally.reject, read]

theorem nodup_eraseDups (xs : List String) : xs.eraseDups.Nodup := by
  induction xs using List.reverseRecOn with
  | nil => simp
  | append_singleton xs x ih =>
    rw [List.eraseDups_append]
    by_cases known : x ∈ xs
    · simpa [List.removeAll, known] using ih
    · have apart : ∀ a ∈ xs, ¬ a = x := fun a mem same => known (same ▸ mem)
      simpa [List.removeAll, known, List.nodup_append, List.eraseDups_cons] using ⟨ih, apart⟩

theorem length_eraseDups (xs : List String) : xs.eraseDups.length = {x | x ∈ xs}.ncard := by
  have same : {x | x ∈ xs} = (xs.eraseDups.toFinset : Set String) := by
    ext x
    simp
  rw [same, Set.ncard_coe_finset, List.toFinset_card_of_nodup (nodup_eraseDups xs)]

/-! ### Where the queries are from -/

/-- The file can be read and holds these queries. -/
def Holds (stored : String → Stored) (file : Option String) (queries : List QueryFile.Item) : Prop :=
  ∃ path bytes, file = some path ∧ stored path = .file bytes ∧ QueryFile.ofBytes path bytes = .ok queries

/-- The queries of the arguments, then those of each file. -/
def Given (s : Settings) (stored : String → Stored) (all : List QueryFile.Item) : Prop :=
  ∃ perFile, List.Forall₂ (Holds stored) s.files perFile ∧
    all = argumentItems s.queries ++ perFile.flatten

/-- Nothing can be had from the file: it is missing, cannot be read, or is no text. -/
def Unreadable (stored : String → Stored) (file : Option String) : Prop :=
  ∀ queries, ¬ Holds stored file queries

theorem unreadable_of_missing {path : String} (missing : stored path = .missing) :
    Unreadable stored (some path) := by
  rintro queries ⟨path', bytes, same, found, _⟩
  obtain rfl := Option.some.inj same
  cases missing.symm.trans found

theorem unreadable_of_undecodable {path : String} {bytes : List UInt8} {fault : Text.Utf8Fault}
    (found : stored path = .file bytes) (undecodable : Text.decodeUtf8 bytes = .error fault) :
    Unreadable stored (some path) := by
  rintro queries ⟨path', bytes', same, found', read⟩
  obtain rfl := Option.some.inj same
  obtain rfl := Stored.file.inj (found.symm.trans found')
  simp [QueryFile.ofBytes, undecodable, Except.map] at read

theorem fileItems_eq_ok_iff {file : Option String} {queries : List QueryFile.Item} :
    fileItems stored file = .ok queries ↔ Holds stored file queries := by
  cases file with
  | none => simp [fileItems, Holds]
  | some path =>
    unfold fileItems
    cases found : stored path with
    | missing => simp [Holds, found]
    | directory => simp [Holds, found]
    | unreadable reason => simp [Holds, found]
    | file bytes =>
      cases read : QueryFile.ofBytes path bytes with
      | error fault => simp [Holds, found, read, Except.mapError]
      | ok queries' => simp [Holds, found, read, Except.mapError]

/-- A step and what follows it both succeed. -/
theorem bind_eq_ok_iff {ε α β : Type} {x : Except ε α} {f : α → Except ε β} {b : β} :
    x >>= f = .ok b ↔ ∃ a, x = .ok a ∧ f a = .ok b := by
  cases x with
  | error e => simp [bind, Except.bind]
  | ok a => simp [bind, Except.bind]

theorem mapM_fileItems_eq_ok_iff {files : List (Option String)}
    {perFile : List (List QueryFile.Item)} :
    files.mapM (fileItems stored) = .ok perFile ↔ List.Forall₂ (Holds stored) files perFile := by
  induction files generalizing perFile with
  | nil =>
    rw [List.forall₂_nil_left_iff]
    exact ⟨fun h => (Except.ok.inj h).symm, fun h => congrArg Except.ok h.symm⟩
  | cons file files ih =>
    rw [List.mapM_cons, List.forall₂_cons_left_iff, bind_eq_ok_iff]
    constructor
    · rintro ⟨queries, first, h⟩
      obtain ⟨others, rest, h⟩ := bind_eq_ok_iff.mp h
      exact ⟨queries, others, fileItems_eq_ok_iff.mp first, ih.mp rest, (Except.ok.inj h).symm⟩
    · rintro ⟨queries, others, first, rest, rfl⟩
      exact ⟨queries, fileItems_eq_ok_iff.mpr first, bind_eq_ok_iff.mpr ⟨others, ih.mpr rest, rfl⟩⟩

theorem exists_holds {files : List (Option String)} {perFile : List (List QueryFile.Item)}
    (held : List.Forall₂ (Holds stored) files perFile) {file : Option String} (mem : file ∈ files) :
    ∃ queries, Holds stored file queries := by
  induction held with
  | nil => cases mem
  | cons first _ ih =>
    rcases List.mem_cons.mp mem with rfl | mem
    · exact ⟨_, first⟩
    · exact ih mem

theorem items_eq_ok_iff {all : List QueryFile.Item} :
    items s stored = .ok all ↔ all ≠ [] ∧ Given s stored all := by
  unfold items
  rw [bind_eq_ok_iff]
  constructor
  · rintro ⟨perFile, files, h⟩
    dsimp only at h
    split at h
    · cases h
    · rename_i some
      obtain rfl := Except.ok.inj h
      exact ⟨by simpa using some, perFile, mapM_fileItems_eq_ok_iff.mp files, rfl⟩
  · rintro ⟨some, perFile, held, rfl⟩
    refine ⟨perFile, mapM_fileItems_eq_ok_iff.mpr held, ?_⟩
    dsimp only
    rw [if_neg (by simpa using some)]
    rfl

theorem Given.unique {all all' : List QueryFile.Item} (h : Given s stored all)
    (h' : Given s stored all') : all = all' := by
  obtain ⟨perFile, held, rfl⟩ := h
  obtain ⟨perFile', held', rfl⟩ := h'
  have read := mapM_fileItems_eq_ok_iff.mpr held
  rw [mapM_fileItems_eq_ok_iff.mpr held'] at read
  rw [Except.ok.inj read]

/-! ### A whole run -/

def Tally.ofItems (items : List QueryFile.Item) : Tally := items.foldl Tally.add {}

/-- What a whole run has written when the last query is checked, and counted. -/
theorem Journal.ofItems_eq (items : List QueryFile.Item) :
    Journal.ofItems v json items =
      .ok ⟨(Entry.info ("Checking " ++ toString items.length ++ " queries") []).shown v ++
        items.flatMap (itemLines v json), Tally.ofItems items⟩ := by
  rw [Journal.ofItems, Journal.foldlM_visit, Journal.foldl_add]
  rfl

theorem Tally.rejected_ofItems (items : List QueryFile.Item) :
    (ofItems items).rejected = 0 ↔ items.all (·.isAccepted) := by
  have counted : (ofItems items).rejected = items.countP (!·.isAccepted) := by
    rw [ofItems, (foldl_counts {} items).2, Nat.zero_add]
  rw [counted, List.countP_eq_zero, List.all_eq_true]
  simp

theorem check_of_items {all : List QueryFile.Item} (had : items s stored = .ok all)
    (found : level s = .ok v) :
    check s stored =
      ⟨if all.all (·.isAccepted) then 0 else 1,
        unlines ((Entry.info ("Checking " ++ toString all.length ++ " queries") []).shown v ++
          all.flatMap (itemLines v s.json) ++
          closingLines v s.stats ((Tally.ofItems all).statistics all.length)), ""⟩ := by
  simp only [check, had, found, bind, Except.bind, pure, Except.pure, Journal.ofItems_eq,
    Tally.rejected_ofItems]

theorem check_of_error {e : CheckError} (failed : items s stored = .error e) :
    check s stored = ⟨2, "", "Error: " ++ e.message ++ "\n"⟩ := by
  simp only [check, failed, bind, Except.bind]

/-- At the normal level a query is reported with its record and nothing else. -/
theorem itemLines_normal (item : QueryFile.Item) : itemLines .normal false item = [item.record] := by
  unfold itemLines QueryFile.Item.record
  cases Query.parse item.text with
  | error failure => rfl
  | ok q => rfl

theorem closingLines_normal (statistics : List (String × Value)) :
    closingLines .normal false statistics = [] := rfl

theorem unlines_records (all : List QueryFile.Item) :
    unlines (all.flatMap (itemLines .normal false)) =
      String.join (all.map fun item => item.record ++ "\n") := by
  have records : all.flatMap (itemLines .normal false) = all.map (·.record) := by
    rw [funext itemLines_normal, ← List.map_eq_flatMap]
  rw [records, unlines, List.map_map]
  rfl

/-- The queries that a run is given are checked each by itself, and reported in order. A run ends with 2 and
writes nothing if a file cannot be read or there are no queries, else with 1 if a query is rejected and
with 0 if all are accepted. -/
theorem check_each_alone (s : Settings) (stored : String → Stored) :
    (∀ all v, Given s stored all → all ≠ [] → level s = .ok v →
      (v = .normal → s.json = false → s.stats = false →
        (check s stored).stdout = String.join (all.map fun item => item.record ++ "\n")) ∧
      (∃ j, Journal.ofItems v s.json all = .ok j ∧
        (check s stored).stdout =
          unlines (j.lines ++ closingLines v s.stats (j.tally.statistics all.length)) ∧
        j.tally.accepted + j.tally.rejected = all.length ∧
        j.tally.statistics all.length =
          [("queries", .int all.length), ("accepted", .int (all.countP (·.isAccepted))),
            ("rejected", .int (all.countP (!·.isAccepted))),
            ("distinct_names", .int {x | ∃ item ∈ all, ∃ q, Query.parse item.text = .ok q ∧
              x ∈ q.names}.ncard)]) ∧
      (check s stored).exitCode = if all.all (·.isAccepted) then 0 else 1) ∧
    ((∃ file ∈ s.files, Unreadable stored file) ∨ Given s stored [] →
      (check s stored).exitCode = 2 ∧ (check s stored).stdout = "") := by
  constructor
  · intro all v given some found
    rw [check_of_items (items_eq_ok_iff.mpr ⟨some, given⟩) found]
    obtain ⟨accepted, rejected⟩ := Tally.foldl_counts {} all
    rw [Nat.zero_add] at accepted rejected
    refine ⟨?_, ⟨_, Journal.ofItems_eq all, rfl, ?_, ?_⟩, rfl⟩
    · rintro rfl noJson noStats
      rw [noJson, noStats, closingLines_normal, List.append_nil, ← unlines_records]
      rfl
    · rw [Tally.ofItems, accepted, rejected]
      simpa using (List.length_eq_countP_add_countP (·.isAccepted) (l := all)).symm
    · have names : {x | x ∈ (Tally.ofItems all).names} =
          {x | ∃ item ∈ all, ∃ q, Query.parse item.text = .ok q ∧ x ∈ q.names} := by
        ext x
        simp [Tally.ofItems, Tally.mem_names_foldl]
      rw [Tally.statistics, length_eraseDups, names, Tally.ofItems, accepted, rejected]
  · intro nothing
    cases had : items s stored with
    | error e =>
      rw [check_of_error had]
      exact ⟨rfl, rfl⟩
    | ok all =>
      obtain ⟨some, given⟩ := items_eq_ok_iff.mp had
      rcases nothing with ⟨file, mem, unreadable⟩ | none
      · obtain ⟨perFile, held, _⟩ := given
        obtain ⟨queries, holds⟩ := exists_holds held mem
        exact absurd holds (unreadable queries)
      · exact absurd (given.unique none) some

/-- A file with a comment, an empty line and a query, and one that is no text. -/
def noted (path : String) : Stored :=
  if path = "q.q" then .file ("# c\n\nE G z & x\n".toList.map fun c => c.toNat.toUInt8)
  else if path = "b.q" then .file [120, 255]
  else .missing

def mixed : Settings := { queries := ["A F x = 1", "(y"], files := [some "q.q"] }

/-- A rejected query keeps no other from being checked, a file without a text keeps all from it. -/
theorem check_mixed :
    (∃ all, Given mixed noted all ∧ all ≠ [] ∧ level mixed = .ok .normal ∧
      (check mixed noted).stdout = "OK: arg1: A F x = 1\n" ++
        "ERROR: arg2: ParseError: Syntax error: unexpected end of query, unmatched '(' " ++
        "(line 1, column 1)\n" ++ "OK: q.q:3: E G z & x\n" ∧
      (∃ j, Journal.ofItems .normal false all = .ok j ∧ j.tally.accepted + j.tally.rejected = 3) ∧
      (check mixed noted).exitCode = 1) ∧
    ∀ path ∈ ["r.q", "b.q"], Unreadable noted (some path) ∧
      (check { mixed with files := [some "q.q", some path] } noted).exitCode = 2 := by
  constructor
  · have held : Holds noted (some "q.q") [⟨"q.q:3", "E G z & x"⟩] :=
      ⟨"q.q", _, rfl, rfl, by decide +kernel⟩
    have given : Given mixed noted
        [⟨"arg1", "A F x = 1"⟩, ⟨"arg2", "(y"⟩, ⟨"q.q:3", "E G z & x"⟩] :=
      ⟨_, .cons held .nil, by decide⟩
    obtain ⟨stdout, ⟨j, ran, _, counted, _⟩, exitCode⟩ :=
      (check_each_alone mixed noted).1 _ .normal given (by decide) rfl
    refine ⟨_, given, by decide, rfl, ?_, ⟨j, ran, counted⟩, ?_⟩
    · rw [stdout rfl rfl rfl]
      decide +kernel
    · rw [exitCode]
      decide +kernel
  · intro path mem
    have nothing : Unreadable noted (some path) := by
      rcases List.mem_pair.mp mem with rfl | rfl
      · exact unreadable_of_missing rfl
      · have broken : Text.decodeUtf8 [120, 255] = .error ⟨.startByte, 1, 1, 255⟩ := by decide +kernel
        exact unreadable_of_undecodable rfl broken
    have ended := (check_each_alone { mixed with files := [some "q.q", some path] } noted).2
      (.inl ⟨some path, by simp, nothing⟩)
    exact ⟨nothing, ended.1⟩

end CommandLine

end TemporalQuery
