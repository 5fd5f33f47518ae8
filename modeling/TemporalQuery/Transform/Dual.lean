import TemporalQuery.Syntax.Query
import TemporalQuery.Transform.Negate

/-!
# Duals

A query over all or some runs with a modality holds exactly when its dual fails. `withModality` and
`withQuantifier` express a query, or else its dual, with a given modality or quantifier.
-/

namespace TemporalQuery

inductive DualError
  | noModalityToConvert
  | noModality
  | noTarget (q : Quantifier)
  | noDual (q : Option Quantifier)
  deriving DecidableEq

def DualError.message : DualError → String
  | noModalityToConvert => "Cannot convert a query without modality to F or G"
  | noModality => "Cannot convert a query without modality"
  | noTarget q => "Cannot convert to quantifier " ++ q.symbol
  | noDual q => "Quantifier " ++ q.elim "none" Quantifier.symbol ++ " has no dual"

namespace Query

/-- The query with the modality `m`, seen from the other side. -/
def dual (q : Query) (m : Modality) : Except DualError Query :=
  match q.quantifier.bind Quantifier.dual? with
  | some k => .ok ⟨q.condition.negate, some k, some m.dual, q.bound⟩
  | none => .error (.noDual q.quantifier)

def withModality (q : Query) (target : Modality) : Except DualError Query :=
  match q.modality with
  | none => .error .noModalityToConvert
  | some m => if m = target then .ok q else q.dual m

def withQuantifier (q : Query) (target : Quantifier) : Except DualError Query :=
  if target.dual? = none then .error (.noTarget target)
  else if q.quantifier = some target then .ok q
  else match q.modality with
    | none => .error .noModality
    | some m => q.dual m

end Query

end TemporalQuery
