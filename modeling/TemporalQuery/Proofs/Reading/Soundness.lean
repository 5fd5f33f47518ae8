import TemporalQuery.Proofs.Reading.Completeness

/-!
# Only trees are read

`Taken` says which tokens a hole, a place or a body has taken up. One token more is one token taken
more (`Body.taken_step`, `State.taken_advance`), so what a run ends with has a tree over all its
tokens (`State.Taken.derivation`).
-/

namespace TemporalQuery.Reading

/-! ### Holes -/

def ExprHole.Taken (hole : ExprHole) (ts : List Token) : Prop :=
  let mark := if hole.minus then [.arith .subtract] else []
  match hole.chain with
  | none => ts = mark
  | some (e, op) => ∃ t : ExprTree .chain, t.expr = e ∧ ts = t.tokens ++ .arith op :: mark

theorem ExprHole.Taken.fill {hole : ExprHole} {ts : List Token} (h : hole.Taken ts)
    (p : ExprTree .primary) :
    ∃ t : ExprTree .chain, t.expr = hole.fill p.expr ∧ t.tokens = ts ++ p.tokens := by
  obtain ⟨chain, minus⟩ := hole
  let a : ExprTree .atom := if minus then .minus p else .plain p
  have expr : a.expr = if minus then .minus p.expr else p.expr := by cases minus <;> rfl
  have tokens : a.tokens = (if minus then [.arith .subtract] else []) ++ p.tokens := by
    cases minus <;> rfl
  rcases chain with _ | ⟨e, op⟩
  · obtain rfl := h
    exact ⟨.single a, expr, tokens⟩
  · obtain ⟨t, rfl, rfl⟩ := h
    refine ⟨.link t op a, ?_, ?_⟩
    · simp only [ExprTree.expr, expr, ExprHole.fill]
    · simp only [ExprTree.tokens, tokens, List.append_assoc, List.cons_append]

theorem ExprHole.Taken.minus {hole : ExprHole} {ts : List Token} (h : hole.Taken ts)
    (unmarked : hole.minus = false) :
    { hole with minus := true }.Taken (ts ++ [Token.arith .subtract]) := by
  obtain ⟨chain, minus⟩ := hole
  obtain rfl : minus = false := unmarked
  rcases chain with _ | ⟨e, op⟩
  · obtain rfl := h
    rfl
  · obtain ⟨t, same, rfl⟩ := h
    exact ⟨t, same, by simp⟩

def CondHole.Taken (hole : CondHole) (ts : List Token) : Prop :=
  ∃ us vs, ts = us ++ vs ∧
    (match hole.chain with
      | none => us = []
      | some (c, op) => ∃ t : CondTree .chain, t.Settled ∧ t.cond = c ∧
          ∃ s, us = t.tokens ++ [.connective op s]) ∧
    match hole.unary with
    | none => vs = []
    | some op => ∃ s, vs = [.unary op s]

theorem CondHole.Taken.fill {hole : CondHole} {ts : List Token} (h : hole.Taken ts)
    (p : CondTree .primary) (settled : p.Settled) :
    ∃ t : CondTree .chain, t.Settled ∧ t.cond = hole.fill p.cond ∧ t.tokens = ts ++ p.tokens := by
  obtain ⟨chain, unary⟩ := hole
  obtain ⟨us, vs, rfl, chained, marked⟩ := h
  have atom : ∃ a : CondTree .atom, a.Settled ∧
      a.cond = CondHole.fill { unary } p.cond ∧ a.tokens = vs ++ p.tokens := by
    cases unary with
    | none =>
      obtain rfl := marked
      exact ⟨.plain p, settled, rfl, rfl⟩
    | some op =>
      obtain ⟨s, rfl⟩ := marked
      exact ⟨.unary op s p, settled, rfl, rfl⟩
  obtain ⟨a, settledAtom, cond, tokens⟩ := atom
  rcases chain with _ | ⟨c, op⟩
  · obtain rfl := chained
    exact ⟨.single a, settledAtom, cond, tokens⟩
  · obtain ⟨t, settledChain, rfl, s, rfl⟩ := chained
    refine ⟨.link t op s a, ⟨settledChain, settledAtom⟩, ?_, ?_⟩
    · simp only [CondTree.cond, cond, CondHole.fill]
    · simp only [CondTree.tokens, tokens, List.append_assoc, List.cons_append, List.nil_append]

theorem CondHole.Taken.unary {hole : CondHole} {ts : List Token} (h : hole.Taken ts)
    (unmarked : hole.unary = none) (op : UnaryOp) (s : String) :
    { hole with unary := some op }.Taken (ts ++ [Token.unary op s]) := by
  obtain ⟨chain, unary⟩ := hole
  obtain rfl : unary = none := unmarked
  obtain ⟨us, vs, rfl, chained, rfl⟩ := h
  exact ⟨us, [.unary op s], by simp, chained, s, rfl⟩

theorem CondHole.taken_chain (t : CondTree .chain) (settled : t.Settled) (op : Connective)
    (s : String) : CondHole.Taken { chain := some (t.cond, op) } (t.tokens ++ [.connective op s]) :=
  ⟨_, [], by simp, ⟨t, settled, rfl, s, rfl⟩, rfl⟩

theorem CondHole.taken_empty : CondHole.Taken {} [] := ⟨[], [], rfl, rfl, rfl⟩

/-! ### Places -/

/-- Open groups, innermost first: what stood in front of each parenthesis, and the parenthesis. -/
inductive GroupsTaken {α : Type} (holeTaken : α → List Token → Prop) :
    List (Opened α) → List Token → Prop
  | nil : GroupsTaken holeTaken [] []
  | cons {g : Opened α} {groups : List (Opened α)} {ts us : List Token} :
      GroupsTaken holeTaken groups ts → holeTaken g.hole us →
      GroupsTaken holeTaken (g :: groups) (ts ++ (us ++ [.openParen]))

def ComparedTaken (compared : Option (Expr × RelOp)) (ts : List Token) : Prop :=
  match compared with
  | none => ts = []
  | some (e, op) => ∃ t : ExprTree .chain, t.expr = e ∧ ∃ s, ts = t.tokens ++ [.relation op s]

def ExprPlace.Taken (p : ExprPlace) (ts : List Token) : Prop :=
  ∃ gs cs rs es, ts = gs ++ (cs ++ (rs ++ es)) ∧ GroupsTaken CondHole.Taken p.cond.groups gs ∧
    p.cond.hole.Taken cs ∧ ComparedTaken p.compared rs ∧ GroupsTaken ExprHole.Taken p.groups es

theorem ExprPlace.Taken.close {p : ExprPlace} {ts : List Token} (h : p.Taken ts)
    (noGroup : p.groups = []) (t : ExprTree .chain) :
    ∃ gs, ∃ c : CondTree .chain, GroupsTaken CondHole.Taken p.cond.groups gs ∧ c.Settled ∧
      c.cond = p.close t.expr ∧ gs ++ c.tokens = ts ++ t.tokens := by
  obtain ⟨⟨groups, hole⟩, compared, inner⟩ := p
  obtain rfl : inner = [] := noGroup
  obtain ⟨gs, cs, rs, es, rfl, groupsTaken, holeTaken, comparedTaken, noneTaken⟩ := h
  cases noneTaken
  have primary : ∃ c : CondTree .primary, c.Settled ∧ c.tokens = rs ++ t.tokens ∧
      hole.fill c.cond = ExprPlace.close ⟨⟨groups, hole⟩, compared, []⟩ t.expr := by
    rcases compared with _ | ⟨e, op⟩
    · obtain rfl := comparedTaken
      exact ⟨.bare t, trivial, rfl, rfl⟩
    · obtain ⟨left, rfl, s, rfl⟩ := comparedTaken
      exact ⟨.compare left op s t, trivial, by simp [CondTree.tokens], rfl⟩
  obtain ⟨c, settled, tokens, same⟩ := primary
  obtain ⟨chain, settledChain, cond, chainTokens⟩ := holeTaken.fill c settled
  exact ⟨gs, chain, groupsTaken, settledChain, cond.trans same, by simp [chainTokens, tokens]⟩

/-! ### Bodies -/

def Body.Taken (b : Body) (ts : List Token) : Prop :=
  match b with
  | operand p hole => ∃ us vs, ts = us ++ vs ∧ p.Taken us ∧ hole.Taken vs
  | expr p e => ∃ us, ∃ t : ExprTree .chain, ts = us ++ t.tokens ∧ p.Taken us ∧ t.expr = e
  | cond groups c => ∃ us, ∃ t : CondTree .chain, ts = us ++ t.tokens ∧
      GroupsTaken CondHole.Taken groups us ∧ t.Settled ∧ t.cond = c ∧ ¬ c.isBare
  | symbol .. => True

namespace Body

theorem taken_opening {groups : List (Opened CondHole)} {ts us : List Token}
    {chain : Option (Condition × Connective)} (groupsTaken : GroupsTaken CondHole.Taken groups ts)
    (chained : CondHole.Taken { chain } us) : (opening groups chain).Taken (ts ++ us) :=
  ⟨ts ++ us, [], by simp, ⟨ts, us, [], [], by simp, groupsTaken, chained, rfl, .nil⟩, rfl⟩

theorem taken_start : start.Taken [] := taken_opening .nil CondHole.taken_empty

variable {p : ExprPlace} {hole : ExprHole} {t : Token} {ts : List Token} {index : Nat} {b : Body}

theorem taken_fill (h : (operand p hole).Taken ts) (q : ExprTree .primary) :
    (expr p (hole.fill q.expr)).Taken (ts ++ q.tokens) := by
  obtain ⟨us, vs, rfl, place, filled⟩ := h
  obtain ⟨t, same, tokens⟩ := filled.fill q
  exact ⟨us, t, by simp [tokens], place, same⟩

theorem taken_opensCondition (h : (operand p hole).Taken ts) (opens : p.opensCondition hole) :
    ∃ gs cs, ts = gs ++ cs ∧ GroupsTaken CondHole.Taken p.cond.groups gs ∧
      p.cond.hole.Taken cs := by
  obtain ⟨place, compared, inner⟩ := p
  simp only [ExprPlace.opensCondition, decide_eq_true_eq] at opens
  obtain ⟨rfl, rfl, rfl⟩ := opens
  obtain ⟨us, vs, rfl, ⟨gs, cs, rs, es, rfl, groups, taken, rfl, noneTaken⟩, rfl⟩ := h
  cases noneTaken
  exact ⟨gs, cs, by simp, groups, taken⟩

theorem taken_stepOperand (h : (operand p hole).Taken ts)
    (stepped : stepOperand p hole t index = some b) : b.Taken (ts ++ [t]) := by
  cases t with
  | int n =>
    obtain rfl := Option.some.inj stepped
    exact taken_fill h (.int n)
  | ident x =>
    obtain rfl := Option.some.inj stepped
    exact taken_fill h (.name (.ident x) x rfl)
  | quoted x =>
    obtain rfl := Option.some.inj stepped
    exact taken_fill h (.name (.quoted x) x rfl)
  | quantifier k x =>
    obtain rfl := Option.some.inj stepped
    exact taken_fill h (.name (.quantifier k x) x rfl)
  | modality m x =>
    simp only [stepOperand] at stepped
    split at stepped
    · rename_i word
      obtain rfl := Option.some.inj stepped
      exact taken_fill h (.name (.modality m x) x (if_pos word))
    · obtain rfl := Option.some.inj stepped
      trivial
  | arith op =>
    cases op with
    | subtract =>
      simp only [stepOperand, Option.ite_none_left_eq_some, Bool.not_eq_true] at stepped
      obtain ⟨unmarked, stepped⟩ := stepped
      obtain rfl := Option.some.inj stepped
      obtain ⟨us, vs, rfl, place, filled⟩ := h
      exact ⟨us, vs ++ [.arith .subtract], by simp, place, filled.minus unmarked⟩
    | _ => simp [stepOperand] at stepped
  | openParen =>
    simp only [stepOperand] at stepped
    split at stepped
    · rename_i opens
      obtain rfl := Option.some.inj stepped
      obtain ⟨gs, cs, rfl, groups, taken⟩ := taken_opensCondition h opens
      have opened := GroupsTaken.cons (g := ⟨p.cond.hole, index⟩) groups taken
      simpa using taken_opening opened CondHole.taken_empty
    · obtain rfl := Option.some.inj stepped
      obtain ⟨us, vs, rfl, ⟨gs, cs, rs, es, rfl, groups, taken, compared, inner⟩, filled⟩ := h
      exact ⟨_, [], (List.append_nil _).symm, ⟨gs, cs, rs, es ++ (vs ++ [.openParen]), by simp, groups,
        taken, compared, .cons inner filled⟩, rfl⟩
  | constant k s =>
    simp only [stepOperand, Option.ite_none_right_eq_some] at stepped
    obtain ⟨opens, stepped⟩ := stepped
    obtain rfl := Option.some.inj stepped
    obtain ⟨gs, cs, rfl, groups, taken⟩ := taken_opensCondition h opens
    obtain ⟨t, settled, filled, tokens⟩ := taken.fill (.constant k s) trivial
    refine ⟨gs, t, ?_, groups, settled, filled, ?_⟩
    · rw [tokens, List.append_assoc]
      rfl
    · exact CondHole.not_isBare_fill _ Bool.false_ne_true
  | unary op s =>
    simp only [stepOperand, Option.ite_none_right_eq_some] at stepped
    obtain ⟨⟨opens, unmarked⟩, stepped⟩ := stepped
    obtain rfl := Option.some.inj stepped
    obtain ⟨gs, cs, rfl, groups, taken⟩ := taken_opensCondition h opens
    simp only [ExprPlace.opensCondition, decide_eq_true_eq] at opens
    obtain ⟨compared, inner, rfl⟩ := opens
    refine ⟨gs ++ (cs ++ [.unary op s]), [], by simp, ?_, rfl⟩
    refine ⟨gs, cs ++ [.unary op s], [], [], by simp, groups, taken.unary unmarked op s, ?_, ?_⟩
    · rw [compared]
      rfl
    · rw [inner]
      exact .nil
  | _ => simp [stepOperand] at stepped

theorem taken_closeGroup {g : Opened CondHole} {groups : List (Opened CondHole)}
    (opened : GroupsTaken CondHole.Taken (g :: groups) ts) (tree : CondTree .chain)
    (settled : tree.Settled) (notBare : ¬ tree.cond.isBare) :
    (cond groups (g.hole.fill (.group tree.cond))).Taken (ts ++ (tree.tokens ++ [.closeParen])) := by
  cases opened with
  | @cons _ _ us vs outer holeTaken =>
    obtain ⟨c, settledGroup, filled, tokens⟩ := holeTaken.fill (.group tree) ⟨notBare, settled⟩
    refine ⟨us, c, ?_, outer, settledGroup, filled, ?_⟩
    · simp [tokens, CondTree.tokens]
    · exact CondHole.not_isBare_fill _ Bool.false_ne_true

theorem taken_closeInner {g : Opened ExprHole} {groups : List (Opened ExprHole)}
    (opened : p.groups = g :: groups) (place : p.Taken ts) (tree : ExprTree .chain) :
    (expr { p with groups } (g.hole.fill (.group tree.expr))).Taken
      (ts ++ (tree.tokens ++ [.closeParen])) := by
  obtain ⟨gs, cs, rs, es, rfl, outer, taken, compared, inner⟩ := place
  rw [opened] at inner
  cases inner with
  | @cons _ _ us vs rest holeTaken =>
    obtain ⟨e, filled, tokens⟩ := holeTaken.fill (.group tree)
    refine ⟨gs ++ (cs ++ (rs ++ us)), e, ?_, ⟨gs, cs, rs, us, rfl, outer, taken, compared, rest⟩, filled⟩
    simp [tokens, ExprTree.tokens]

/-- A parenthesis that was opened as a condition's and closes around a bare expression. -/
theorem taken_closeBare {g : Opened CondHole} {groups : List (Opened CondHole)}
    (opened : p.cond.groups = g :: groups) (noGroup : p.groups = []) (isBare : p.isBare)
    (place : p.Taken ts) (tree : ExprTree .chain) :
    (expr { cond := ⟨groups, g.hole⟩ } (.group tree.expr)).Taken
      (ts ++ (tree.tokens ++ [.closeParen])) := by
  obtain ⟨⟨outer, hole⟩, compared, inner⟩ := p
  obtain rfl : outer = g :: groups := opened
  obtain rfl : inner = [] := noGroup
  simp only [ExprPlace.isBare, decide_eq_true_eq] at isBare
  obtain ⟨rfl, rfl⟩ := isBare
  obtain ⟨gs, cs, rs, es, rfl, groupsTaken, ⟨us, vs, rfl, rfl, rfl⟩, rfl, innerTaken⟩ := place
  cases innerTaken
  cases groupsTaken with
  | @cons _ _ ws xs rest holeTaken =>
    refine ⟨ws ++ xs, .single (.plain (.group tree)), ?_, ?_, rfl⟩
    · simp [ExprTree.tokens]
    · exact ⟨ws, xs, [], [], by simp, rest, holeTaken, rfl, .nil⟩

theorem taken_stepExpr {e : Expr} (h : (expr p e).Taken ts)
    (stepped : stepExpr p e t = some b) : b.Taken (ts ++ [t]) := by
  obtain ⟨us, tree, rfl, place, rfl⟩ := h
  cases t with
  | arith op =>
    obtain rfl := Option.some.inj stepped
    exact ⟨us, tree.tokens ++ [.arith op], by simp, place, tree, rfl, rfl⟩
  | relation op s =>
    simp only [stepExpr, Option.ite_none_right_eq_some] at stepped
    obtain ⟨⟨inner, uncompared⟩, stepped⟩ := stepped
    obtain rfl := Option.some.inj stepped
    obtain ⟨gs, cs, rs, es, rfl, groups, taken, compared, innerTaken⟩ := place
    rw [uncompared] at compared
    obtain rfl := compared
    rw [inner] at innerTaken
    cases innerTaken
    refine ⟨_, [], (List.append_nil _).symm, ?_, rfl⟩
    refine ⟨gs, cs, tree.tokens ++ [.relation op s], [], by simp, groups, taken, ⟨tree, rfl, s, rfl⟩, ?_⟩
    rw [inner]
    exact .nil
  | connective op s =>
    simp only [stepExpr, Option.ite_none_right_eq_some] at stepped
    obtain ⟨inner, stepped⟩ := stepped
    obtain rfl := Option.some.inj stepped
    obtain ⟨gs, c, groups, settled, cond, tokens⟩ := place.close inner tree
    rw [← tokens, ← cond, List.append_assoc]
    exact taken_opening groups (CondHole.taken_chain c settled op s)
  | closeParen =>
    rw [List.append_assoc]
    simp only [stepExpr] at stepped
    split at stepped
    · rename_i g gs opened
      obtain rfl := Option.some.inj stepped
      exact taken_closeInner opened place tree
    · rename_i g gs noGroup opened
      split at stepped
      · rename_i isBare
        obtain rfl := Option.some.inj stepped
        exact taken_closeBare opened noGroup isBare place tree
      · rename_i notBare
        obtain rfl := Option.some.inj stepped
        obtain ⟨us, c, groups, settled, cond, tokens⟩ := place.close noGroup tree
        rw [← ExprPlace.isBare_close p tree.expr, ← cond] at notBare
        rw [opened] at groups
        rw [← List.append_assoc, ← tokens, List.append_assoc, ← cond]
        exact taken_closeGroup groups c settled notBare
    · cases stepped
  | _ => simp [stepExpr] at stepped

theorem taken_stepCond {groups : List (Opened CondHole)} {c : Condition}
    (h : (cond groups c).Taken ts) (stepped : stepCond groups c t = some b) :
    b.Taken (ts ++ [t]) := by
  obtain ⟨us, tree, rfl, groupsTaken, settled, rfl, notBare⟩ := h
  cases t with
  | connective op s =>
    obtain rfl := Option.some.inj stepped
    rw [List.append_assoc]
    exact taken_opening groupsTaken (CondHole.taken_chain tree settled op s)
  | closeParen =>
    rw [List.append_assoc]
    cases groups with
    | nil => exact absurd stepped nofun
    | cons g gs =>
      obtain rfl := Option.some.inj stepped
      exact taken_closeGroup groupsTaken tree settled notBare
  | _ => simp [stepCond] at stepped

theorem taken_step (h : b.Taken ts) {b' : Body} (stepped : b.step t index = some b') :
    b'.Taken (ts ++ [t]) := by
  cases b with
  | operand p hole => exact taken_stepOperand h stepped
  | expr p e => exact taken_stepExpr h stepped
  | cond groups c => exact taken_stepCond h stepped
  | symbol spelling at_ => exact absurd stepped nofun

theorem Taken.tree (h : b.Taken ts) {c : Condition} (finished : b.finish? = some c) :
    ∃ t : CondTree .chain, t.Settled ∧ t.cond = c ∧ t.tokens = ts := by
  cases b with
  | expr p e =>
    simp only [finish?, Option.ite_none_right_eq_some] at finished
    obtain ⟨⟨inner, outer⟩, finished⟩ := finished
    obtain rfl := Option.some.inj finished
    obtain ⟨us, tree, rfl, place, rfl⟩ := h
    obtain ⟨gs, t, groups, settled, cond, tokens⟩ := place.close inner tree
    rw [outer] at groups
    cases groups
    exact ⟨t, settled, cond, by simpa using tokens⟩
  | cond groups c' =>
    cases groups with
    | cons g gs => simp [finish?] at finished
    | nil =>
      obtain rfl := Option.some.inj finished
      obtain ⟨us, t, rfl, groups, settled, cond, _⟩ := h
      cases groups
      exact ⟨t, settled, cond, rfl⟩
  | _ => simp [finish?] at finished

end Body

/-! ### Headings -/

def HeadingTaken (q : Option Quantifier) (m : Option Modality) (ts : List Token) : Prop :=
  ∃ us vs, ts = us ++ vs ∧
    (match q with
      | none => us = []
      | some k => ∃ s, us = [.quantifier k s]) ∧
    match m with
    | none => vs = []
    | some k => ∃ s, vs = [.modality k s]

def BoundLetter.token : BoundLetter → Token
  | word w => .ident w
  | hash => .hash

def BoundPart.Taken (part : BoundPart) (ts : List Token) : Prop :=
  match part with
  | opened => ts = [.openBracket]
  | lettered l => ts = [.openBracket, l.token]
  | related l => ∃ s, ts = [.openBracket, l.token, .relation .le s]
  | measured l n => ∃ s, ts = [.openBracket, l.token, .relation .le s, .int n]

theorem BoundPart.taken_advance {part part' : BoundPart} {t : Token} {ts : List Token}
    (h : part.Taken ts) (advanced : part.advance t = some part') : part'.Taken (ts ++ [t]) := by
  unfold BoundPart.advance at advanced
  split at advanced
  · obtain rfl := h
    obtain rfl := Option.some.inj advanced
    rfl
  · obtain rfl := h
    obtain rfl := Option.some.inj advanced
    rfl
  · obtain rfl := h
    obtain rfl := Option.some.inj advanced
    exact ⟨_, rfl⟩
  · obtain ⟨s, rfl⟩ := h
    obtain rfl := Option.some.inj advanced
    exact ⟨s, rfl⟩
  · exact absurd advanced nofun

namespace State

def Taken (s : State) (ts : List Token) : Prop :=
  match s with
  | heading q m => HeadingTaken q m ts
  | bound q m _ part => ∃ us vs, ts = us ++ vs ∧ HeadingTaken q m us ∧ part.Taken vs
  | misnamed w _ => ∃ q m us s n, HeadingTaken q m us ∧ w ≠ "t" ∧
      ts = us ++ [.openBracket, .ident w, .relation .le s, .int n, .closeBracket]
  | body q m b c => ∃ us vs ws, ts = us ++ (vs ++ ws) ∧ HeadingTaken q m us ∧
      BoundSpan ws vs b ∧ c.Taken ws ∧ vs ++ ws ≠ [] ∧ Enters q m (vs ++ ws)

variable {q : Option Quantifier} {m : Option Modality} {t : Token} {ts : List Token} {index : Nat}

theorem taken_initial : start.Taken [] := ⟨[], [], rfl, rfl, rfl⟩

theorem taken_heading_quantifier {k : Quantifier} {s : String} (h : HeadingTaken none none ts) :
    HeadingTaken (some k) none (ts ++ [.quantifier k s]) := by
  obtain ⟨us, vs, rfl, rfl, rfl⟩ := h
  exact ⟨[.quantifier k s], [], rfl, ⟨s, rfl⟩, rfl⟩

theorem taken_heading_modality {k : Modality} {s : String} (h : HeadingTaken q none ts) :
    HeadingTaken q (some k) (ts ++ [.modality k s]) := by
  obtain ⟨us, vs, rfl, quantifier, rfl⟩ := h
  exact ⟨us, [.modality k s], by simp, quantifier, s, rfl⟩

theorem taken_enter (h : HeadingTaken q m ts) (enters : Enters q m [t]) (noBracket : t ≠ .openBracket)
    {s : State} (entered : enter q m t index = some s) : s.Taken (ts ++ [t]) := by
  obtain ⟨c, stepped, rfl⟩ := Option.map_eq_some_iff.mp entered
  have absent : BoundSpan [t] [] none := .absent fun e => noBracket (Option.some.inj e)
  exact ⟨ts, [], [t], rfl, h, absent, Body.taken_step Body.taken_start stepped, by simp, enters⟩

theorem taken_advance_heading (h : HeadingTaken q m ts) {s : State}
    (advanced : (heading q m).advance t index = some s) : s.Taken (ts ++ [t]) := by
  cases t with
  | quantifier k w =>
    simp only [advance] at advanced
    split at advanced
    · rename_i absent
      obtain ⟨rfl, rfl⟩ := absent
      obtain rfl := Option.some.inj advanced
      exact taken_heading_quantifier h
    · rename_i given
      exact taken_enter h ⟨fun hq hm => absurd ⟨hq, hm⟩ given, by simp⟩ (by simp) advanced
  | modality k w =>
    simp only [advance] at advanced
    split at advanced
    · rename_i absent
      obtain rfl := absent
      obtain rfl := Option.some.inj advanced
      exact taken_heading_modality h
    · rename_i given
      exact taken_enter h ⟨by simp, fun hm => absurd hm given⟩ (by simp) advanced
  | openBracket =>
    obtain rfl := Option.some.inj advanced
    exact ⟨ts, [.openBracket], rfl, h, rfl⟩
  | _ => exact taken_enter h ⟨by simp, by simp⟩ (by simp) advanced

theorem taken_advance_bound {start : Nat} {part : BoundPart} (h : (bound q m start part).Taken ts)
    {s : State} (advanced : (bound q m start part).advance t index = some s) :
    s.Taken (ts ++ [t]) := by
  obtain ⟨us, vs, rfl, heading, taken⟩ := h
  rw [List.append_assoc]
  simp only [advance] at advanced
  split at advanced
  · rename_i n
    obtain rfl := Option.some.inj advanced
    obtain ⟨w, rfl⟩ := taken
    exact ⟨us, _, [], rfl, heading, .steps w n, Body.taken_start, by simp, ⟨by simp, by simp⟩⟩
  · rename_i w n
    obtain ⟨spelling, rfl⟩ := taken
    split at advanced
    · rename_i isTime
      obtain rfl := isTime
      obtain rfl := Option.some.inj advanced
      exact ⟨us, _, [], rfl, heading, .time spelling n, Body.taken_start, by simp, ⟨by simp, by simp⟩⟩
    · rename_i notTime
      obtain rfl := Option.some.inj advanced
      exact ⟨q, m, us, spelling, n, heading, notTime, rfl⟩
  · obtain ⟨part', within, rfl⟩ := Option.map_eq_some_iff.mp advanced
    exact ⟨us, vs ++ [t], rfl, heading, part.taken_advance taken within⟩

theorem taken_body {b : Option Bound} {c : Body} (h : (body q m b c).Taken ts) {s : State}
    (advanced : (body q m b c).advance t index = some s) : s.Taken (ts ++ [t]) := by
  obtain ⟨c', stepped, rfl⟩ := Option.map_eq_some_iff.mp advanced
  obtain ⟨us, vs, ws, rfl, heading, bound, taken, nonempty, enters⟩ := h
  have sameHead : (vs ++ (ws ++ [t])).head? = (vs ++ ws).head? := by
    rw [← List.append_assoc, List.head?_append, List.head?_eq_some_head nonempty, Option.some_or]
  refine ⟨us, vs, ws ++ [t], by simp, heading, ?_, Body.taken_step taken stepped, by simp, ?_⟩
  · cases bound with
    | time w n => exact .time w n
    | steps w n => exact .steps w n
    | absent noBracket =>
      simp only [List.nil_append] at sameHead
      exact .absent (sameHead ▸ noBracket)
  · exact ⟨sameHead ▸ enters.noQuantifier, sameHead ▸ enters.noModality⟩

theorem taken_advance {s s' : State} (h : s.Taken ts) (advanced : s.advance t index = some s') :
    s'.Taken (ts ++ [t]) := by
  cases s with
  | heading q m => exact taken_advance_heading h advanced
  | bound q m start part => exact taken_advance_bound h advanced
  | misnamed w start => exact absurd advanced nofun
  | body q m b c => exact taken_body h advanced

theorem taken_run {s s' : State} {ls : List Lexeme} (h : s.Taken ts) (ran : s.run ls = .ok s') :
    s'.Taken (ts ++ ls.map (·.token)) := by
  induction ls generalizing s ts with
  | nil =>
    obtain rfl := Except.ok.inj ran
    simpa using h
  | cons l ls ih =>
    cases advanced : s.advance l.token l.start with
    | none => cases (run_cons_refused advanced ls).symm.trans ran
    | some s₁ =>
      rw [run_cons advanced] at ran
      simpa using ih (taken_advance h advanced) ran

theorem Taken.derivation {s : State} (h : s.Taken ts) {r : Query} (finished : s.finish? = some r) :
    ∃ d : Derivation ts, d.query = r := by
  cases s with
  | body q m b c =>
    obtain ⟨k, condition, rfl⟩ := Option.map_eq_some_iff.mp finished
    obtain ⟨us, vs, ws, rfl, ⟨qs, ms, rfl, quantifier, modality⟩, bound, taken, _, enters⟩ := h
    obtain ⟨t, settled, rfl, rfl⟩ := taken.tree condition
    have modalitySpan : ModalitySpan (vs ++ t.tokens) ms m := by
      cases m with
      | none =>
        obtain rfl := modality
        exact .absent (enters.noModality rfl)
      | some k =>
        obtain ⟨w, rfl⟩ := modality
        exact .present k w
    have quantifierSpan : QuantifierSpan (ms ++ (vs ++ t.tokens)) qs q := by
      cases q with
      | some k =>
        obtain ⟨w, rfl⟩ := quantifier
        exact .present k w
      | none =>
        obtain rfl := quantifier
        refine .absent fun k w => ?_
        cases modalitySpan with
        | present m' w' => simp
        | absent _ => exact enters.noQuantifier rfl rfl k w
    exact ⟨⟨qs, ms, vs, t, q, m, b, by simp, quantifierSpan, modalitySpan, bound, settled⟩, rfl⟩
  | _ => exact absurd finished nofun

end State

end TemporalQuery.Reading
