import TemporalQuery.Transform.Dual
import TemporalQuery.Proofs.Transform.Simplify

/-!
# Duals are complements

Expressed with the other modality or the other quantifier, a query becomes one that holds in just those
models in which it fails (`Query.dual_complements`).
-/

namespace TemporalQuery

universe u

variable {S : Type u}

namespace Modality

theorem over_dual (m : Modality) (positions : Set Nat) (P : Nat → Prop) :
    m.dual.Over positions (fun i => ¬ P i) ↔ ¬ m.Over positions P := by
  cases m with
  | eventually => simp only [dual, Over, not_exists, not_and]
  | globally => simp only [dual, Over, not_forall, exists_prop]

theorem dual_eq_of_ne {m target : Modality} (other : target ≠ m) : m.dual = target := by
  cases m with
  | eventually =>
    cases target with
    | eventually => exact absurd rfl other
    | globally => rfl
  | globally =>
    cases target with
    | eventually => rfl
    | globally => exact absurd rfl other

end Modality

namespace Quantifier

theorem over_dual {k k' : Quantifier} (dual : k.dual? = some k') (runs : Set (Nat → S))
    (P : (Nat → S) → Prop) : k'.Over runs (fun σ => ¬ P σ) ↔ ¬ k.Over runs P := by
  cases k with
  | universal =>
    obtain rfl := Option.some.inj dual
    simp only [Over, not_forall, exists_prop]
  | existential =>
    obtain rfl := Option.some.inj dual
    simp only [Over, not_exists, not_and]
  | probability | probabilityR => cases dual

theorem exists_dual? {k : Quantifier} (overRuns : ¬ k.isProbabilistic) : ∃ k', k.dual? = some k' := by
  cases k with
  | universal | existential => exact ⟨_, rfl⟩
  | probability | probabilityR => exact absurd rfl overRuns

theorem dual?_eq_of_ne {k target : Quantifier} (overRuns : ¬ k.isProbabilistic)
    (targeted : ¬ target.isProbabilistic) (other : target ≠ k) : k.dual? = some target := by
  cases k with
  | universal =>
    cases target with
    | universal => exact absurd rfl other
    | existential => rfl
    | probability | probabilityR => exact absurd rfl targeted
  | existential =>
    cases target with
    | universal => rfl
    | existential => exact absurd rfl other
    | probability | probabilityR => exact absurd rfl targeted
  | probability | probabilityR => exact absurd rfl overRuns

end Quantifier

namespace Query

/-- `r` holds in just the models in which `q` fails, under the same bound. -/
def Complements (r q : Query) : Prop :=
  r.bound = q.bound ∧ ∀ (S : Type u) (M : Model S), r.Holds M ↔ ¬ q.Holds M

variable {q : Query} {k k' : Quantifier} {m : Modality}

theorem holds_iff (M : Model S) (quantifier : q.quantifier = some k) (modality : q.modality = some m) :
    q.Holds M ↔ k.Over M.runs fun σ =>
      m.Over (M.admitted q.bound σ) fun i => q.condition.Holds M.interpretation σ i := by
  simp [Holds, quantifier, modality]

/-- The quantifier, the modality and the condition turn over together. -/
theorem holds_dual (M : Model S) (quantifier : q.quantifier = some k) (dual : k.dual? = some k')
    (modality : q.modality = some m) :
    Holds M ⟨q.condition.negate, some k', some m.dual, q.bound⟩ ↔ ¬ q.Holds M :=
  calc Holds M ⟨q.condition.negate, some k', some m.dual, q.bound⟩
    _ ↔ k'.Over M.runs fun σ => m.dual.Over (M.admitted q.bound σ) fun i =>
          q.condition.negate.Holds M.interpretation σ i := holds_iff M rfl rfl
    _ ↔ k'.Over M.runs fun σ => ¬ m.Over (M.admitted q.bound σ) fun i =>
          q.condition.Holds M.interpretation σ i := by
      simp only [Condition.holds_negate, Modality.over_dual]
    _ ↔ ¬ k.Over M.runs fun σ => m.Over (M.admitted q.bound σ) fun i =>
          q.condition.Holds M.interpretation σ i := Quantifier.over_dual dual _ _
    _ ↔ ¬ q.Holds M := not_congr (holds_iff M quantifier modality).symm

theorem dual_eq_ok (m : Modality) (quantifier : q.quantifier = some k) (dual : k.dual? = some k') :
    q.dual m = .ok ⟨q.condition.negate, some k', some m.dual, q.bound⟩ := by
  simp [Query.dual, quantifier, dual]

theorem exists_complement (quantifier : q.quantifier = some k) (dual : k.dual? = some k')
    (modality : q.modality = some m) :
    ∃ r, q.dual m = .ok r ∧ r.quantifier = some k' ∧ r.modality = some m.dual ∧
      Complements.{u} r q :=
  ⟨_, dual_eq_ok m quantifier dual, rfl, rfl, rfl, fun _ M => holds_dual M quantifier dual modality⟩

theorem withModality_self (modality : q.modality = some m) : q.withModality m = .ok q := by
  rw [withModality, modality]
  exact if_pos rfl

theorem withModality_of_ne {target : Modality} (modality : q.modality = some m) (other : target ≠ m) :
    q.withModality target = q.dual m := by
  rw [withModality, modality]
  exact if_neg other.symm

theorem withQuantifier_self (quantifier : q.quantifier = some k) (overRuns : ¬ k.isProbabilistic) :
    q.withQuantifier k = .ok q := by
  obtain ⟨k', dual⟩ := Quantifier.exists_dual? overRuns
  rw [withQuantifier, if_neg (by simp [dual]), if_pos quantifier]

theorem withQuantifier_of_ne {target : Quantifier} (quantifier : q.quantifier = some k)
    (targeted : ¬ target.isProbabilistic) (modality : q.modality = some m) (other : target ≠ k) :
    q.withQuantifier target = q.dual m := by
  obtain ⟨k', dual⟩ := Quantifier.exists_dual? targeted
  have changed : q.quantifier ≠ some target := by
    rw [quantifier]
    exact fun same => other (Option.some.inj same).symm
  rw [withQuantifier, if_neg (by simp [dual]), if_neg changed, modality]

/-- Under a quantifier over runs and with a modality, a query has a complement with any other modality
and one with any other such quantifier; expressed with its own, it stays as it is. -/
theorem dual_complements (quantifier : q.quantifier = some k) (overRuns : ¬ k.isProbabilistic)
    (modality : q.modality = some m) :
    (∀ target ≠ m, ∃ r, q.withModality target = .ok r ∧ r.modality = some target ∧
      Complements.{u} r q) ∧
    (∀ target ≠ k, ¬ target.isProbabilistic → ∃ r, q.withQuantifier target = .ok r ∧
      r.quantifier = some target ∧ Complements.{u} r q) ∧
    q.withModality m = .ok q ∧ q.withQuantifier k = .ok q := by
  refine ⟨fun target other => ?_, fun target other targeted => ?_, withModality_self modality,
    withQuantifier_self quantifier overRuns⟩
  · obtain ⟨k', dual⟩ := Quantifier.exists_dual? overRuns
    obtain ⟨r, made, _, turned, complements⟩ := exists_complement quantifier dual modality
    rw [withModality_of_ne modality other, ← Modality.dual_eq_of_ne other]
    exact ⟨r, made, turned, complements⟩
  · have dual := Quantifier.dual?_eq_of_ne overRuns targeted other
    obtain ⟨r, made, turned, _, complements⟩ := exists_complement quantifier dual modality
    rw [withQuantifier_of_ne quantifier targeted modality other]
    exact ⟨r, made, turned, complements⟩

/-- On every run, at some position within five units of time, `x` starts to last until `y` is next. -/
def handover : Query where
  condition := .binary .strongUntil (.bare (.name "x")) (.unary .nextState (.bare (.name "y")))
  quantifier := some .universal
  modality := some .eventually
  bound := some (.time 5)

def noHandover : Query where
  condition := .unary .negation (.group handover.condition)
  quantifier := some .existential
  modality := some .globally
  bound := some (.time 5)

/-- `E G [t<=5] !(x until next y)` is the complement of `A F [t<=5] x until next y`. -/
theorem handover_complemented :
    (handover.quantifier = some .universal ∧ handover.modality = some .eventually) ∧
      handover.withModality .globally = .ok noHandover ∧
      handover.withQuantifier .existential = .ok noHandover ∧
      Complements.{0} noHandover handover := by
  obtain ⟨byModality, _⟩ :=
    dual_complements (q := handover) rfl (by decide : ¬ Quantifier.universal.isProbabilistic) rfl
  have turned : handover.withModality .globally = .ok noHandover := rfl
  obtain ⟨r, made, _, complements⟩ := byModality .globally (by decide)
  obtain rfl : noHandover = r := Except.ok.inj (turned.symm.trans made)
  exact ⟨⟨rfl, rfl⟩, turned, rfl, complements⟩

end Query

end TemporalQuery
