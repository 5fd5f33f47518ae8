import TemporalQuery.Parse
import TemporalQuery.Proofs.Grammar

/-!
# Every tree is read

`b.Reads ts post`: from `b`, the tokens `ts` are read, at whatever offsets they stand, and the body
they lead to satisfies `post`. `reads_cond` says where the tokens of a tree lead.
-/

namespace TemporalQuery

/-- The token as a lexeme, wherever it stands. -/
def Lexeme.ofToken (t : Token) : Lexeme := ⟨t, 0, 0, 0⟩

theorem Lexeme.map_token_ofToken (ts : List Token) : (ts.map ofToken).map (·.token) = ts := by
  rw [List.map_map]
  exact List.map_id ts

namespace Reading

namespace Body

def feed (b : Body) (ls : List Lexeme) : Option Body :=
  ls.foldlM (fun b l => b.step l.token l.start) b

def Reads (b : Body) (ts : List Token) (post : Body → Prop) : Prop :=
  ∀ ls : List Lexeme, ls.map (·.token) = ts → ∃ b', b.feed ls = some b' ∧ post b'

variable {b : Body} {t : Token} {ts us : List Token} {post mid : Body → Prop}

theorem feed_cons (b : Body) (l : Lexeme) (ls : List Lexeme) :
    b.feed (l :: ls) = (b.step l.token l.start).bind (·.feed ls) := by
  simp only [feed, List.foldlM_cons]
  rfl

theorem feed_append (b : Body) (ls ms : List Lexeme) :
    b.feed (ls ++ ms) = (b.feed ls).bind (·.feed ms) := by
  simp only [feed, List.foldlM_append]
  rfl

theorem Reads.nil (h : post b) : b.Reads [] post := by
  intro ls same
  obtain rfl := List.map_eq_nil_iff.mp same
  exact ⟨b, rfl, h⟩

theorem Reads.mono (h : b.Reads ts mid) (weaker : ∀ b', mid b' → post b') : b.Reads ts post := by
  intro ls same
  obtain ⟨b', fed, hb⟩ := h ls same
  exact ⟨b', fed, weaker b' hb⟩

theorem Reads.cons (h : ∀ index, ∃ b', b.step t index = some b' ∧ b'.Reads ts post) :
    b.Reads (t :: ts) post := by
  intro ls same
  obtain ⟨l, rest, rfl, rfl, sameRest⟩ := List.map_eq_cons_iff.mp same
  obtain ⟨b', stepped, reads⟩ := h l.start
  obtain ⟨b'', fed, hb⟩ := reads rest sameRest
  exact ⟨b'', by rw [feed_cons, stepped, Option.bind_some, fed], hb⟩

theorem Reads.append (h : b.Reads ts mid) (next : ∀ b', mid b' → b'.Reads us post) :
    b.Reads (ts ++ us) post := by
  intro ls same
  obtain ⟨ls₁, ls₂, rfl, same₁, same₂⟩ := List.map_eq_append_iff.mp same
  obtain ⟨b₁, fed₁, h₁⟩ := h ls₁ same₁
  obtain ⟨b₂, fed₂, h₂⟩ := next b₁ h₁ ls₂ same₂
  exact ⟨b₂, by rw [feed_append, fed₁, Option.bind_some, fed₂], h₂⟩

theorem Reads.single (h : ∀ index, ∃ b', b.step t index = some b' ∧ post b') :
    b.Reads [t] post :=
  .cons fun index =>
    have ⟨b', stepped, hb⟩ := h index
    ⟨b', stepped, .nil hb⟩

/-- The token is read for the name alone that it stands for. -/
theorem step_name {x : String} (p : ExprPlace) (hole : ExprHole) (index : Nat)
    (h : t.name? = some x) :
    (operand p hole).step t index = some (.expr p (hole.fill (.name x))) := by
  cases t with
  | ident y | quoted y | quantifier _ y =>
    obtain rfl := Option.some.inj h
    rfl
  | modality m y =>
    obtain ⟨symbol, found⟩ := Option.ite_none_right_eq_some.mp h
    obtain rfl := Option.some.inj found
    simp only [step, stepOperand, if_pos symbol]
  | _ => simp [Token.name?] at h

end Body

/-! ### Expressions -/

/-- What may be read into the hole: an atom only without a minus sign, a chain only first. -/
def ExprHole.Admits (hole : ExprHole) : Layer → Prop
  | .primary => True
  | .atom => hole.minus = false
  | .chain => hole = {}

theorem ExprHole.fill_minus {hole : ExprHole} (h : hole.minus = false) (e : Expr) :
    { hole with minus := true }.fill e = hole.fill (.minus e) := by
  obtain ⟨chain, minus⟩ := hole
  obtain rfl : minus = false := h
  rfl

open Body

theorem reads_expr {l : Layer} (t : ExprTree l) (p : ExprPlace) (hole : ExprHole)
    (admits : hole.Admits l) :
    (operand p hole).Reads t.tokens (· = .expr p (hole.fill t.expr)) := by
  induction t generalizing p hole with
  | int n => exact .single fun _ => ⟨_, rfl, rfl⟩
  | name t x h => exact .single fun index => ⟨_, step_name p hole index h, rfl⟩
  | group e ih =>
    refine .cons fun index => ?_
    by_cases opens : p.opensCondition hole
    · -- The parentheses are opened as those of a condition and turn out to be an expression's.
      obtain ⟨⟨groups, h⟩, compared, inner⟩ := p
      simp only [ExprPlace.opensCondition, decide_eq_true_eq] at opens
      obtain ⟨rfl, rfl, rfl⟩ := opens
      refine ⟨opening (⟨h, index⟩ :: groups) none, rfl, ?_⟩
      refine (ih _ {} rfl).append fun b hb => .single fun _ => ?_
      subst hb
      exact ⟨_, rfl, rfl⟩
    · refine ⟨.operand { p with groups := ⟨hole, index⟩ :: p.groups } {}, ?_, ?_⟩
      · simp [step, stepOperand, opens]
      · refine (ih _ {} rfl).append fun b hb => .single fun _ => ?_
        subst hb
        exact ⟨_, rfl, rfl⟩
  | minus e ih =>
    refine .cons fun index => ⟨.operand p { hole with minus := true }, ?_, ?_⟩
    · simp [step, stepOperand, show hole.minus = false from admits]
    · simpa only [ExprTree.expr, ExprHole.fill_minus admits] using ih p { hole with minus := true } trivial
  | plain e ih => exact ih p hole trivial
  | single a ih =>
    obtain rfl : hole = {} := admits
    exact ih p {} rfl
  | link e op a ihe iha =>
    obtain rfl : hole = {} := admits
    refine (ihe p {} rfl).append fun b hb => .cons fun _ => ?_
    subst hb
    exact ⟨_, rfl, iha p { chain := some (e.expr, op) } rfl⟩

/-! ### Conditions -/

/-- What may be read into the hole: an atom only without an operator in front, a chain only first. -/
def CondHole.Admits (hole : CondHole) : Layer → Prop
  | .primary => True
  | .atom => hole.unary = none
  | .chain => hole = {}

theorem CondHole.fill_unary {hole : CondHole} (h : hole.unary = none) (op : UnaryOp)
    (c : Condition) : { hole with unary := some op }.fill c = hole.fill (.unary op c) := by
  obtain ⟨chain, unary⟩ := hole
  obtain rfl : unary = none := h
  rfl

def Body.Ends (groups : List (Opened CondHole)) (c : Condition) : Body → Prop
  | .expr p e => p.groups = [] ∧ p.cond.groups = groups ∧ p.close e = c
  | .cond gs c' => gs = groups ∧ c' = c
  | _ => False

theorem Body.Ends.step_connective {groups : List (Opened CondHole)} {c : Condition} {b : Body}
    (h : b.Ends groups c) (op : Connective) (spelling : String) (index : Nat) :
    b.step (.connective op spelling) index = some (opening groups (some (c, op))) := by
  cases b with
  | expr p e =>
    obtain ⟨none, rfl, rfl⟩ := h
    simp [step, stepExpr, none]
  | cond gs c' =>
    obtain ⟨rfl, rfl⟩ := h
    rfl
  | _ => exact h.elim

theorem CondHole.not_isBare_fill (hole : CondHole) {c : Condition} (h : ¬ c.isBare) :
    ¬ (hole.fill c).isBare := by
  obtain ⟨chain, unary⟩ := hole
  cases chain <;> cases unary <;> simp_all [fill, Condition.isBare]

/-- What ends here is bare exactly if nothing but an expression was read since the group opened. -/
theorem ExprPlace.isBare_close (p : ExprPlace) (e : Expr) : (p.close e).isBare = p.isBare := by
  obtain ⟨⟨groups, ⟨chain, unary⟩⟩, compared, inner⟩ := p
  cases chain <;> cases unary <;> cases compared <;>
    simp [close, isBare, CondHole.fill, Condition.isBare]

theorem Body.Ends.step_closeParen {g : Opened CondHole} {groups : List (Opened CondHole)}
    {c : Condition} {b : Body} (h : b.Ends (g :: groups) c) (settled : ¬ c.isBare) (index : Nat) :
    b.step .closeParen index = some (.cond groups (g.hole.fill (.group c))) := by
  cases b with
  | expr p e =>
    obtain ⟨none, opened, rfl⟩ := h
    rw [ExprPlace.isBare_close] at settled
    simp [step, stepExpr, none, opened, settled]
  | cond gs c' =>
    obtain ⟨rfl, rfl⟩ := h
    rfl
  | _ => exact h.elim

theorem reads_cond {l : Layer} (t : CondTree l) (settled : t.Settled)
    (groups : List (Opened CondHole)) (hole : CondHole) (admits : hole.Admits l) :
    (operand { cond := ⟨groups, hole⟩ } {}).Reads t.tokens (·.Ends groups (hole.fill t.cond)) := by
  induction t generalizing groups hole with
  | constant k s => exact .single fun _ => ⟨_, rfl, rfl, rfl⟩
  | bare e =>
    refine (reads_expr e _ {} rfl).mono fun b hb => ?_
    subst hb
    exact ⟨rfl, rfl, rfl⟩
  | compare e op s e' =>
    refine (reads_expr e _ {} rfl).append fun b hb => .cons fun _ => ?_
    subst hb
    refine ⟨_, rfl, (reads_expr e' _ {} rfl).mono fun b hb => ?_⟩
    subst hb
    exact ⟨rfl, rfl, rfl⟩
  | group c ih =>
    refine .cons fun index => ⟨opening (⟨hole, index⟩ :: groups) none, rfl, ?_⟩
    refine (ih settled.2 _ {} rfl).append fun b hb => .single fun _ => ?_
    exact ⟨_, hb.step_closeParen settled.1 _, rfl, rfl⟩
  | unary op s c ih =>
    let filled : CondHole := { hole with unary := some op }
    refine .cons fun index => ⟨.operand { cond := ⟨groups, filled⟩ } {}, ?_, ?_⟩
    · simp [step, stepOperand, ExprPlace.opensCondition, show hole.unary = none from admits, filled]
    · simpa only [CondTree.cond, CondHole.fill_unary admits] using
        ih settled groups { hole with unary := some op } trivial
  | plain c ih => exact ih settled groups hole trivial
  | single a ih =>
    obtain rfl : hole = {} := admits
    exact ih settled groups {} rfl
  | link c op s a ihc iha =>
    obtain rfl : hole = {} := admits
    refine (ihc settled.1 groups {} rfl).append fun b hb => .cons fun _ => ?_
    exact ⟨_, hb.step_connective op s _, iha settled.2 groups { chain := some (c.cond, op) } rfl⟩

theorem Body.Ends.finish? {c : Condition} {b : Body} (h : b.Ends [] c) : b.finish? = some c := by
  cases b with
  | expr p e =>
    obtain ⟨none, noGroup, rfl⟩ := h
    simp [Body.finish?, none, noGroup]
  | cond gs c' =>
    obtain ⟨rfl, rfl⟩ := h
    rfl
  | _ => exact h.elim


/-! ### Queries -/

namespace State

def Reads (s : State) (ts : List Token) (post : State → Prop) : Prop :=
  ∀ ls : List Lexeme, ls.map (·.token) = ts → ∃ s', s.run ls = .ok s' ∧ post s'

def InBody (q : Option Quantifier) (m : Option Modality) (b : Option Bound) (post : Body → Prop)
    (s : State) : Prop :=
  ∃ c, s = body q m b c ∧ post c

variable {q : Option Quantifier} {m : Option Modality} {b : Option Bound}
variable {ts us : List Token} {post : Body → Prop}

theorem run_cons {s s' : State} {l : Lexeme} (h : s.advance l.token l.start = some s')
    (ls : List Lexeme) : s.run (l :: ls) = s'.run ls := by
  simp only [run, List.foldlM_cons, step, h]
  rfl

theorem run_cons_refused {s : State} {l : Lexeme} (h : s.advance l.token l.start = none)
    (ls : List Lexeme) : s.run (l :: ls) = .error (s.refusal l.token l.start) := by
  simp only [run, List.foldlM_cons, step, h]
  rfl

theorem Reads.nil {s : State} {post : State → Prop} (h : post s) : s.Reads [] post := by
  intro ls same
  obtain rfl := List.map_eq_nil_iff.mp same
  exact ⟨s, rfl, h⟩

theorem Reads.cons {s : State} {t : Token} {post : State → Prop}
    (h : ∀ index, ∃ s', s.advance t index = some s' ∧ s'.Reads ts post) :
    s.Reads (t :: ts) post := by
  intro ls same
  obtain ⟨l, rest, rfl, rfl, sameRest⟩ := List.map_eq_cons_iff.mp same
  obtain ⟨s', advanced, reads⟩ := h l.start
  obtain ⟨s'', ran, hs⟩ := reads rest sameRest
  exact ⟨s'', by rw [run_cons advanced, ran], hs⟩

theorem run_body {c c' : Body} {ls : List Lexeme} (h : c.feed ls = some c') :
    (body q m b c).run ls = .ok (body q m b c') := by
  induction ls generalizing c with
  | nil =>
    obtain rfl := Option.some.inj h
    rfl
  | cons l ls ih =>
    rw [Body.feed_cons] at h
    obtain ⟨c₁, stepped, fed⟩ := Option.bind_eq_some_iff.mp h
    have advanced : (body q m b c).advance l.token l.start = some (body q m b c₁) := by
      simp only [advance, stepped, Option.map_some]
    rw [run_cons advanced, ih fed]

theorem reads_body {c : Body} (h : c.Reads ts post) :
    (body q m b c).Reads ts (InBody q m b post) := by
  intro ls same
  obtain ⟨c', fed, hc⟩ := h ls same
  exact ⟨_, run_body fed, c', rfl, hc⟩

/-- The tokens do not go on with a heading that has the given parts. -/
structure Enters (q : Option Quantifier) (m : Option Modality) (ts : List Token) : Prop where
  noQuantifier : q = none → m = none → ∀ k s, ts.head? ≠ some (.quantifier k s)
  noModality : m = none → ∀ k s, ts.head? ≠ some (.modality k s)

theorem advance_enters {t : Token} (index : Nat) (enters : Enters q m (t :: ts))
    (noBracket : t ≠ .openBracket) : (heading q m).advance t index = enter q m t index := by
  cases t with
  | quantifier k s =>
    have given : ¬(q = none ∧ m = none) := fun ⟨hq, hm⟩ => enters.noQuantifier hq hm k s rfl
    simp only [advance, if_neg given]
  | modality k s =>
    have given : ¬ m = none := fun hm => enters.noModality hm k s rfl
    simp only [advance, if_neg given]
  | openBracket => exact absurd rfl noBracket
  | _ => rfl

theorem reads_enter (enters : Enters q m ts) (noBracket : ts.head? ≠ some .openBracket)
    (nonempty : ts ≠ []) (h : Body.start.Reads ts post) :
    (heading q m).Reads ts (InBody q m none post) := by
  intro ls same
  obtain ⟨c, fed, hc⟩ := h ls same
  cases ls with
  | nil => exact absurd same.symm nonempty
  | cons l ls =>
    subst same
    rw [Body.feed_cons] at fed
    obtain ⟨c₁, stepped, fed⟩ := Option.bind_eq_some_iff.mp fed
    have advanced : (heading q m).advance l.token l.start = some (body q m none c₁) := by
      rw [advance_enters l.start enters (fun e => noBracket (congrArg some e))]
      simp only [enter, stepped, Option.map_some]
    exact ⟨_, by rw [run_cons advanced, run_body fed], c, rfl, hc⟩

theorem reads_boundSpan (enters : Enters q m (us ++ ts)) (bound : BoundSpan ts us b)
    (nonempty : ts ≠ []) (h : Body.start.Reads ts post) :
    (heading q m).Reads (us ++ ts) (InBody q m b post) := by
  cases bound with
  | time s n | steps s n =>
    iterate 5 refine .cons fun _ => ⟨_, rfl, ?_⟩
    exact reads_body h
  | absent noBracket => exact reads_enter enters noBracket nonempty h

theorem reads_modalitySpan {vs : List Token}
    (noQuantifier : q = none → ∀ k s, (vs ++ (us ++ ts)).head? ≠ some (.quantifier k s))
    (modality : ModalitySpan (us ++ ts) vs m) (bound : BoundSpan ts us b) (nonempty : ts ≠ [])
    (h : Body.start.Reads ts post) :
    (heading q none).Reads (vs ++ (us ++ ts)) (InBody q m b post) := by
  cases modality with
  | present k s =>
    refine .cons fun _ => ⟨heading q (some k), rfl, ?_⟩
    show (heading q (some k)).Reads (us ++ ts) _
    exact reads_boundSpan ⟨nofun, nofun⟩ bound nonempty h
  | absent noModality =>
    rw [List.nil_append]
    exact reads_boundSpan ⟨fun hq _ => noQuantifier hq, fun _ => noModality⟩ bound nonempty h

theorem reads_spans {vs ws : List Token} (quantifier : QuantifierSpan (vs ++ (us ++ ts)) ws q)
    (modality : ModalitySpan (us ++ ts) vs m) (bound : BoundSpan ts us b) (nonempty : ts ≠ [])
    (h : Body.start.Reads ts post) :
    start.Reads (ws ++ (vs ++ (us ++ ts))) (InBody q m b post) := by
  cases quantifier with
  | present k s =>
    refine .cons fun _ => ⟨heading (some k) none, rfl, ?_⟩
    show (heading (some k) none).Reads (vs ++ (us ++ ts)) _
    exact reads_modalitySpan (fun hq => nomatch hq) modality bound nonempty h
  | absent noQuantifier =>
    rw [List.nil_append]
    exact reads_modalitySpan (fun _ => noQuantifier) modality bound nonempty h

end State

theorem reads_derivation {ts : List Token} (d : Derivation ts) :
    State.start.Reads ts (·.finish? = some d.query) := by
  have body := reads_cond d.body d.settled [] {} rfl
  have spans := State.reads_spans d.quantifierSpan d.modalitySpan d.boundSpan
    d.body.tokens_ne_nil body
  rw [← d.split] at spans
  intro ls same
  obtain ⟨s, ran, c, rfl, ends⟩ := spans ls same
  exact ⟨_, ran, by simp [State.finish?, ends.finish?, Derivation.query, CondHole.fill]⟩

end Reading

end TemporalQuery
