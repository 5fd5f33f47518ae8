import TemporalQuery.Proofs.Transform.Duality
import Mathlib.Tactic.Tauto

/-!
# Refused conversions

A conversion is refused if the query has no modality or is not under a quantifier over runs, and if the
target is no such quantifier. A query that has the target already is kept, and most of this is not even
asked then (`Query.conversion_refused`).
-/

namespace TemporalQuery

theorem Quantifier.dual?_eq_none_iff {k : Quantifier} : k.dual? = none ↔ k.isProbabilistic := by
  cases k <;> simp [dual?, isProbabilistic]

theorem Quantifier.dual?_ne_self (k : Quantifier) : k.dual? ≠ some k := by
  cases k <;> simp [dual?]

namespace Query

/-- The query is about all runs or about some run. -/
def OverRuns (q : Query) : Prop := ∃ k ∈ q.quantifier, ¬ k.isProbabilistic

variable {q : Query} {m : Modality} {k : Quantifier} {e : DualError}

theorem overRuns_iff : q.OverRuns ↔ q.quantifier.bind Quantifier.dual? ≠ none := by
  cases quantifier : q.quantifier with
  | none => simp [OverRuns, quantifier]
  | some k => simp [OverRuns, quantifier, Quantifier.dual?_eq_none_iff]

theorem dual_eq_error_iff : q.dual m = .error e ↔ ¬ q.OverRuns ∧ e = .noDual q.quantifier := by
  rw [overRuns_iff]
  unfold dual
  cases q.quantifier.bind Quantifier.dual? with
  | none => simp [eq_comm]
  | some k' => simp

/-- A dual is under another quantifier. -/
theorem dual_ne_self : q.dual m ≠ .ok q := by
  intro same
  unfold dual at same
  split at same
  · rename_i k' turned
    obtain ⟨k, quantifier, dual⟩ := Option.bind_eq_some_iff.mp turned
    have kept := congrArg Query.quantifier (Except.ok.inj same)
    rw [quantifier] at kept
    obtain rfl := Option.some.inj kept
    exact k'.dual?_ne_self dual
  · cases same

/-! ### To a modality -/

theorem withModality_eq_self_iff : q.withModality m = .ok q ↔ q.modality = some m := by
  refine ⟨fun kept => ?_, withModality_self⟩
  unfold withModality at kept
  split at kept
  · cases kept
  · rename_i m' modality
    split at kept
    · rename_i same
      rw [modality, same]
    · exact absurd kept dual_ne_self

/-- A missing modality is told before a quantifier that has no dual. -/
theorem withModality_eq_error_iff : q.withModality m = .error e ↔
    q.modality = none ∧ e = .noModalityToConvert ∨
      (q.modality ≠ none ∧ q.modality ≠ some m) ∧ ¬ q.OverRuns ∧ e = .noDual q.quantifier := by
  unfold withModality
  cases q.modality with
  | none => simp [eq_comm]
  | some m' =>
    by_cases same : m' = m
    · simp [same]
    · simp [same, dual_eq_error_iff]

/-! ### To a quantifier -/

theorem withQuantifier_eq_self_iff :
    q.withQuantifier k = .ok q ↔ q.quantifier = some k ∧ ¬ k.isProbabilistic := by
  refine ⟨fun kept => ?_, fun h => withQuantifier_self h.1 h.2⟩
  unfold withQuantifier at kept
  split at kept
  · cases kept
  · rename_i targeted
    split at kept
    · exact ⟨‹_›, mt Quantifier.dual?_eq_none_iff.mpr targeted⟩
    · split at kept
      · cases kept
      · exact absurd kept dual_ne_self

/-- The target is looked at first, then the modality, and the quantifier of the query last. -/
theorem withQuantifier_eq_error_iff : q.withQuantifier k = .error e ↔
    k.isProbabilistic ∧ e = .noTarget k ∨
      (¬ k.isProbabilistic ∧ q.quantifier ≠ some k) ∧
        (q.modality = none ∧ e = .noModality ∨
          q.modality ≠ none ∧ ¬ q.OverRuns ∧ e = .noDual q.quantifier) := by
  unfold withQuantifier
  simp only [Quantifier.dual?_eq_none_iff]
  by_cases probabilistic : k.isProbabilistic
  · simp [probabilistic, eq_comm]
  · by_cases same : q.quantifier = some k
    · simp [probabilistic, same]
    · cases q.modality with
      | none => simp [probabilistic, same, eq_comm]
      | some m => simp [probabilistic, same, dual_eq_error_iff]

/-! ### What is refused -/

theorem withModality_refused_iff : (∃ e, q.withModality m = .error e) ↔
    (q.modality = none ∨ ¬ q.OverRuns) ∧ q.modality ≠ some m := by
  simp only [withModality_eq_error_iff]
  cases q.modality with
  | none => simp
  | some m' => simp [and_comm]

theorem withQuantifier_refused_iff : (∃ e, q.withQuantifier k = .error e) ↔
    k.isProbabilistic ∨ (¬ q.OverRuns ∨ q.modality = none) ∧ q.quantifier ≠ some k := by
  simp only [withQuantifier_eq_error_iff]
  by_cases probabilistic : k.isProbabilistic
  · simp [probabilistic]
  · cases q.modality with
    | none => simp [probabilistic]
    | some m => simp [probabilistic, and_comm]

theorem exists_ok_iff {ε α : Type} {x : Except ε α} : (∃ a, x = .ok a) ↔ ¬ ∃ e, x = .error e := by
  cases x <;> simp

/-- What a conversion asks of a query it asks only of one that it has to change. Whatever it does not
refuse it converts, or keeps if there is nothing to convert. -/
theorem conversion_refused (q : Query) (m : Modality) (k : Quantifier) :
    (((∃ e, q.withModality m = .error e) ↔
        (q.modality = none ∨ ¬ q.OverRuns) ∧ q.modality ≠ some m) ∧
      ((∃ r, q.withModality m = .ok r) ↔ q.modality = some m ∨ q.modality ≠ none ∧ q.OverRuns) ∧
      (q.withModality m = .ok q ↔ q.modality = some m)) ∧
    ((∃ e, q.withQuantifier k = .error e) ↔
        k.isProbabilistic ∨ (¬ q.OverRuns ∨ q.modality = none) ∧ q.quantifier ≠ some k) ∧
      ((∃ r, q.withQuantifier k = .ok r) ↔
        ¬ k.isProbabilistic ∧ (q.quantifier = some k ∨ q.OverRuns ∧ q.modality ≠ none)) ∧
      (q.withQuantifier k = .ok q ↔ q.quantifier = some k ∧ ¬ k.isProbabilistic) := by
  refine ⟨⟨withModality_refused_iff, ?_, withModality_eq_self_iff⟩, withQuantifier_refused_iff, ?_,
    withQuantifier_eq_self_iff⟩
  · rw [exists_ok_iff, withModality_refused_iff]
    tauto
  · rw [exists_ok_iff, withQuantifier_refused_iff]
    tauto

/-- `P F x` -/
def likelyX : Query := ⟨.bare (.name "x"), some .probability, some .eventually, none⟩

/-- `A x` -/
def alwaysX : Query := ⟨.bare (.name "x"), some .universal, none, none⟩

/-- Neither query has a dual, yet each has the target already and is kept. -/
theorem conversion_kept :
    (likelyX.withModality .eventually = .ok likelyX ∧
      ¬ ((∃ e, likelyX.withModality .eventually = .error e) ↔
        likelyX.modality = none ∨ ¬ likelyX.OverRuns)) ∧
    alwaysX.withQuantifier .universal = .ok alwaysX ∧
      ¬ ((∃ e, alwaysX.withQuantifier .universal = .error e) ↔
        Quantifier.universal.isProbabilistic ∨ ¬ alwaysX.OverRuns ∨ alwaysX.modality = none) := by
  have kept : likelyX.withModality .eventually = .ok likelyX := rfl
  have kept' : alwaysX.withQuantifier .universal = .ok alwaysX := rfl
  have noDual : ¬ likelyX.OverRuns := by
    rw [overRuns_iff]
    exact fun turned => turned rfl
  refine ⟨⟨kept, fun same => ?_⟩, kept', fun same => ?_⟩
  · obtain ⟨e, refused⟩ := same.mpr (.inr noDual)
    cases kept.symm.trans refused
  · obtain ⟨e, refused⟩ := same.mpr (.inr (.inr rfl))
    cases kept'.symm.trans refused

end Query

end TemporalQuery
