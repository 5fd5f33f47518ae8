import TemporalQuery.Proofs.Canonical.Surface
import TemporalQuery.Proofs.Transform.NormalForm
import TemporalQuery.Transform.Dual

/-!
# Edited queries can be read back

Whatever is done to a query that was read, by `edit` and any number of times, its canonical text is
read as that query (`Query.parse_text_edited`). What carries this is that no edit leaves the surface
shape.
-/

namespace TemporalQuery

namespace Condition

variable {c l r : Condition}

theorem Surface.asPrimary (h : c.Surface) : c.asPrimary.isPrimary ∧ c.asPrimary.Surface := by
  unfold Condition.asPrimary
  split
  · rename_i primary
    exact ⟨primary, h⟩
  · rename_i compound
    refine ⟨rfl, surface_group_iff.mpr ⟨fun bare => ?_, h⟩⟩
    cases c with
    | bare e => exact compound rfl
    | _ => cases bare

theorem Surface.asOperand (h : c.Surface) : ¬ c.asOperand.isBinary ∧ c.asOperand.Surface := by
  unfold Condition.asOperand
  split
  · rename_i chain
    refine ⟨Bool.false_ne_true, surface_group_iff.mpr ⟨fun bare => ?_, h⟩⟩
    cases c with
    | bare e => cases chain
    | _ => cases bare
  · rename_i single
    exact ⟨single, h⟩

theorem Surface.unary (op : UnaryOp) (h : c.Surface) : (unary op c.asPrimary).Surface :=
  surface_unary_iff.mpr h.asPrimary

theorem Surface.binary (op : Connective) (hl : l.Surface) (hr : r.Surface) :
    (binary op l r.asOperand).Surface :=
  surface_binary_iff.mpr ⟨hr.asOperand.1, hl, hr.asOperand.2⟩

theorem Surface.unwrap (h : c.Surface) : c.unwrap.Surface := by
  induction c with
  | group c ih => exact ih (surface_group_iff.mp h).2
  | _ => exact h

theorem Surface.complement (h : c.Surface) : c.complement.Surface := by
  unfold Condition.complement
  split
  · exact surface_constant .falsity
  · exact surface_constant .truth
  · exact (surface_unary_iff.mp h).2
  · exact h.unary .negation

theorem Surface.combined {op : Connective} (hl : l.Surface) (hr : r.Surface)
    (h : Combined op l r c) : c.Surface := by
  cases h with
  | constant k => exact surface_constant k
  | left => exact hl
  | right => exact hr
  | both _ => exact hl.binary op hr

theorem Surface.simplify (h : c.Surface) : c.simplify.Surface := by
  induction c with
  | constant k | bare e | compare e op e' => exact h
  | group c ih => exact (ih (surface_group_iff.mp h).2).asOperand.2
  | unary op c ih =>
    have operand := ih (surface_unary_iff.mp h).2
    cases op with
    | negation => exact operand.unwrap.complement
    | nextState => exact operand.unary .nextState
  | binary op l r ihl ihr =>
    obtain ⟨_, left, right⟩ := surface_binary_iff.mp h
    exact (ihl left).combined (ihr right) (combined_simplify op l r)

end Condition

/-- What can be done to a query. -/
inductive Edit
  | asModality (target : Modality)
  | asQuantifier (target : Quantifier)
  | negate
  | simplify
  | setQuantifier (q : Option Quantifier)
  | setModality (m : Option Modality)
  | setBound (b : Option Bound)

/-- A bound that is set has to be one that can be built. -/
def Edit.Valid : Edit → Prop
  | setBound b => ∀ x ∈ b, x.max ≤ maxInt
  | _ => True

namespace Query

/-- The query after the edit. A conversion that fails changes nothing. -/
def edit (q : Query) : Edit → Query
  | .asModality target => (q.withModality target).toOption.getD q
  | .asQuantifier target => (q.withQuantifier target).toOption.getD q
  | .negate => { q with condition := q.condition.negate }
  | .simplify => { q with condition := q.condition.simplify }
  | .setQuantifier k => { q with quantifier := k }
  | .setModality m => { q with modality := m }
  | .setBound b => { q with bound := b }

def edited (q : Query) (edits : List Edit) : Query := edits.foldl edit q

variable {q r : Query}

theorem Surface.negate (h : q.Surface) (k : Option Quantifier) (m : Option Modality) :
    Surface ⟨q.condition.negate, k, m, q.bound⟩ :=
  ⟨h.condition.unary .negation, h.bound⟩

theorem Surface.dual (h : q.Surface) {m : Modality} (converted : q.dual m = .ok r) : r.Surface := by
  unfold Query.dual at converted
  split at converted
  · obtain rfl := Except.ok.inj converted
    exact h.negate _ _
  · cases converted

theorem Surface.withModality (h : q.Surface) {m : Modality} (converted : q.withModality m = .ok r) :
    r.Surface := by
  unfold Query.withModality at converted
  split at converted
  · cases converted
  · split at converted
    · obtain rfl := Except.ok.inj converted
      exact h
    · exact h.dual converted

theorem Surface.withQuantifier (h : q.Surface) {k : Quantifier}
    (converted : q.withQuantifier k = .ok r) : r.Surface := by
  unfold Query.withQuantifier at converted
  split at converted
  · cases converted
  · split at converted
    · obtain rfl := Except.ok.inj converted
      exact h
    · split at converted
      · cases converted
      · exact h.dual converted

/-- A conversion gives a query of surface shape or none. -/
theorem Surface.getD {converted : Except DualError Query} (h : q.Surface)
    (result : ∀ r, converted = .ok r → r.Surface) : (converted.toOption.getD q).Surface := by
  cases converted with
  | error e => exact h
  | ok r => exact result r rfl

theorem Surface.edit (h : q.Surface) {e : Edit} (valid : e.Valid) : (q.edit e).Surface := by
  cases e with
  | asModality target => exact h.getD fun _ => h.withModality
  | asQuantifier target => exact h.getD fun _ => h.withQuantifier
  | negate => exact h.negate _ _
  | simplify => exact ⟨h.condition.simplify, h.bound⟩
  | setQuantifier k | setModality m => exact ⟨h.condition, h.bound⟩
  | setBound b => exact ⟨h.condition, valid⟩

theorem Surface.edited (h : q.Surface) {edits : List Edit} (valid : ∀ e ∈ edits, e.Valid) :
    (q.edited edits).Surface := by
  induction edits generalizing q with
  | nil => exact h
  | cons e edits ih =>
    rw [List.forall_mem_cons] at valid
    exact ih (h.edit valid.1) valid.2

/-- At every point of a run of edits, the canonical text of the query is read as the query. -/
theorem parse_text_edited {text : String} {edits done : List Edit} (read : parse text = .ok q)
    (valid : ∀ e ∈ edits, e.Valid) (reached : done <+: edits) :
    parse (q.edited done).text = .ok (q.edited done) := by
  have validDone : ∀ e ∈ done, e.Valid := fun e he => valid e (reached.subset he)
  exact ((surface_of_parse read).edited validDone).parse_text

def editedText : String := "A [] [t<=5] \"E\" until (next F) & !(!(next y))"

def editedQuery : Query where
  condition := .binary .conjunction
    (.binary .strongUntil (.bare (.name "E")) (.group (.unary .nextState (.bare (.name "F")))))
    (.unary .negation (.group (.unary .negation (.group (.unary .nextState (.bare (.name "y")))))))
  quantifier := some .universal
  modality := some .globally
  bound := some (.time 5)

/-- The heading goes, one conversion fails and one changes nothing. The first name needs its quotes
again in the end. -/
def someEdits : List Edit :=
  [.simplify, .simplify, .setBound none, .asModality .globally, .asQuantifier .probability,
    .setModality none, .setQuantifier none]

theorem parse_text_someEdits :
    parse editedText = .ok editedQuery ∧ (∀ e ∈ someEdits, e.Valid) ∧ someEdits <+: someEdits ∧
      (editedQuery.edited someEdits).text = "\"E\" until next F & next y" ∧
      parse (editedQuery.edited someEdits).text = .ok (editedQuery.edited someEdits) :=
  have read : parse editedText = .ok editedQuery := by decide +kernel
  have valid : ∀ e ∈ someEdits, e.Valid := by simp [someEdits, Edit.Valid]
  have whole : someEdits <+: someEdits := List.prefix_refl someEdits
  ⟨read, valid, whole, by decide +kernel, parse_text_edited read valid whole⟩

end Query

end TemporalQuery
