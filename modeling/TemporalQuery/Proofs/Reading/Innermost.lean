import TemporalQuery.Proofs.Messages
import TemporalQuery.Proofs.Reading.Nesting

/-!
# The innermost open parenthesis

A parenthesis stays open if nowhere behind it more parentheses close than open. A text that ends too early
is told to end at the last of them, and at its own end if there are none (`Query.unexpected_end_told`).
-/

namespace TemporalQuery

/-- How many of the lexemes are the token. -/
def occurrences (t : Token) (ls : List Lexeme) : Nat := ls.countP (·.token = t)

/-- The parenthesis `l` opens in front of `vs`, and none of these closes it. -/
structure StaysOpen (ls : List Lexeme) (l : Lexeme) (vs : List Lexeme) : Prop where
  split : ∃ us, ls = us ++ l :: vs
  opens : l.token = .openParen
  unclosed : ∀ ws, ws <+: vs → occurrences .closeParen ws ≤ occurrences .openParen ws

theorem occurrences_concat (t : Token) (ls : List Lexeme) (l : Lexeme) :
    occurrences t (ls ++ [l]) = occurrences t ls + if l.token = t then 1 else 0 := by
  simp [occurrences, List.countP_cons]

namespace Lexeme

variable {l : Lexeme} {opened opened' : List Nat}

/-- What one lexeme does to the open parentheses. -/
inductive Nests (l : Lexeme) (opened : List Nat) : List Nat → Prop
  | opens (paren : l.token = .openParen) : Nests l opened (l.start :: opened)
  | closes {index : Nat} {outer : List Nat} (paren : l.token = .closeParen)
      (innermost : opened = index :: outer) : Nests l opened outer
  | other (notOpen : l.token ≠ .openParen) (notClose : l.token ≠ .closeParen) : Nests l opened opened

theorem nest_eq_some_iff : l.nest opened = some opened' ↔ l.Nests opened opened' := by
  constructor
  · intro h
    unfold nest at h
    split at h
    · obtain rfl := Option.some.inj h
      exact .opens ‹_›
    · cases h
    · obtain rfl := Option.some.inj h
      exact .closes ‹_› rfl
    · rename_i notOpen noneOpen someOpen
      rw [Option.some.inj h] at noneOpen someOpen ⊢
      refine .other notOpen fun closes => ?_
      cases opened' with
      | nil => exact noneOpen closes rfl
      | cons index outer => exact someOpen index outer closes rfl
  · intro h
    cases h with
    | opens paren => simp [nest, paren]
    | closes paren innermost => simp [nest, paren, innermost]
    | other notOpen notClose =>
      unfold nest
      split <;> simp_all

theorem isSome_nest (h : l.token = .closeParen → opened ≠ []) : (l.nest opened).isSome := by
  unfold nest
  split <;> simp_all

/-- Parentheses further out make no difference. -/
theorem Nests.append (h : l.Nests opened opened') (outer : List Nat) :
    l.Nests (opened ++ outer) (opened' ++ outer) := by
  cases h with
  | opens paren => exact .opens paren
  | closes paren innermost => exact .closes paren (by rw [innermost, List.cons_append])
  | other notOpen notClose => exact .other notOpen notClose

theorem Nests.length_add (h : l.Nests opened opened') :
    opened'.length + (if l.token = .closeParen then 1 else 0) =
      opened.length + if l.token = .openParen then 1 else 0 := by
  cases h with
  | opens paren => simp [paren]
  | closes paren innermost => simp [paren, innermost]
  | other notOpen notClose => simp [notOpen, notClose]

end Lexeme

/-! ### Lexemes that close nothing in front of them -/

section

variable {ls us vs : List Lexeme} {l : Lexeme} {opened outer : List Nat}

theorem unclosed_concat_eq_some_iff : unclosed (ls ++ [l]) = some opened ↔
    ∃ outer, unclosed ls = some outer ∧ l.Nests outer opened := by
  simp only [unclosed_concat, Option.bind_eq_some_iff, Lexeme.nest_eq_some_iff]

/-- What the lexemes leave open stands in front of what was open before. -/
theorem unclosed_append (before : unclosed us = some outer) (h : unclosed vs = some opened) :
    unclosed (us ++ vs) = some (opened ++ outer) := by
  induction vs using List.reverseRecOn generalizing opened with
  | nil =>
    obtain rfl := Option.some.inj h
    rw [List.append_nil, before, List.nil_append]
  | append_singleton vs l ih =>
    obtain ⟨inner, first, nests⟩ := unclosed_concat_eq_some_iff.mp h
    rw [← List.append_assoc]
    exact unclosed_concat_eq_some_iff.mpr ⟨inner ++ outer, ih first, nests.append outer⟩

theorem length_of_unclosed (h : unclosed ls = some opened) :
    opened.length + occurrences .closeParen ls = occurrences .openParen ls := by
  induction ls using List.reverseRecOn generalizing opened with
  | nil =>
    obtain rfl := Option.some.inj h
    rfl
  | append_singleton ls l ih =>
    obtain ⟨outer, before, nests⟩ := unclosed_concat_eq_some_iff.mp h
    have counted := ih before
    have step := nests.length_add
    rw [occurrences_concat, occurrences_concat]
    omega

theorem isSome_unclosed_of_front (h : (unclosed ls).isSome) (front : us <+: ls) :
    (unclosed us).isSome := by
  obtain ⟨vs, rfl⟩ := front
  induction vs using List.reverseRecOn with
  | nil => rwa [List.append_nil] at h
  | append_singleton vs l ih =>
    obtain ⟨opened, found⟩ := Option.isSome_iff_exists.mp h
    rw [← List.append_assoc] at found
    obtain ⟨outer, before, _⟩ := unclosed_concat_eq_some_iff.mp found
    exact ih (Option.isSome_of_eq_some before)

theorem isSome_unclosed_iff : (unclosed ls).isSome ↔
    ∀ us, us <+: ls → occurrences .closeParen us ≤ occurrences .openParen us := by
  constructor
  · intro h us front
    obtain ⟨opened, found⟩ := Option.isSome_iff_exists.mp (isSome_unclosed_of_front h front)
    have counted := length_of_unclosed found
    omega
  · intro h
    induction ls using List.reverseRecOn with
    | nil => rfl
    | append_singleton ls l ih =>
      have before := ih fun us front => h us (front.trans (List.prefix_append _ _))
      obtain ⟨outer, found⟩ := Option.isSome_iff_exists.mp before
      have counted := length_of_unclosed found
      have whole := h _ (List.prefix_refl _)
      rw [occurrences_concat, occurrences_concat] at whole
      rw [unclosed_concat, found, Option.bind_some]
      refine Lexeme.isSome_nest fun closes => ?_
      rintro rfl
      rw [List.length_nil, Nat.zero_add] at counted
      simp only [closes, if_true, reduceCtorEq, if_false, Nat.add_zero] at whole
      omega

theorem staysOpen_iff : StaysOpen ls l vs ↔
    (∃ us, ls = us ++ l :: vs) ∧ l.token = .openParen ∧ (unclosed vs).isSome := by
  rw [isSome_unclosed_iff]
  constructor
  · rintro ⟨split, opens, unclosed⟩
    exact ⟨split, opens, unclosed⟩
  · rintro ⟨split, opens, unclosed⟩
    exact ⟨split, opens, unclosed⟩

theorem Balanced.not_staysOpen (h : Balanced ls) (l : Lexeme) (vs : List Lexeme) :
    ¬ StaysOpen ls l vs := by
  intro stays
  obtain ⟨⟨us, rfl⟩, paren, closed⟩ := staysOpen_iff.mp stays
  have front := isSome_unclosed_of_front (Option.isSome_of_eq_some h) (List.prefix_append us (l :: vs))
  obtain ⟨outer, before⟩ := Option.isSome_iff_exists.mp front
  obtain ⟨inner, behind⟩ := Option.isSome_iff_exists.mp closed
  have opened : unclosed (us ++ [l]) = some (l.start :: outer) :=
    unclosed_concat_eq_some_iff.mpr ⟨outer, before, .opens paren⟩
  have whole := unclosed_append opened behind
  rw [← List.append_cons, show unclosed (us ++ l :: vs) = some [] from h] at whole
  simp at whole

/-- Where a parenthesis that is still open stands, with what is open in front of it and behind it. -/
theorem exists_of_unclosed {inner : List Nat} {index : Nat}
    (h : unclosed ls = some (inner ++ index :: outer)) :
    ∃ us l vs, ls = us ++ l :: vs ∧ l.token = .openParen ∧ l.start = index ∧
      unclosed us = some outer ∧ unclosed vs = some inner := by
  induction ls using List.reverseRecOn generalizing inner with
  | nil =>
    have empty := Option.some.inj h
    simp at empty
  | append_singleton ls m ih =>
    obtain ⟨opened, before, nests⟩ := unclosed_concat_eq_some_iff.mp h
    have further {inner' : List Nat} (nests : m.Nests inner' inner)
        (same : opened = inner' ++ index :: outer) :
        ∃ us l vs, ls ++ [m] = us ++ l :: vs ∧ l.token = .openParen ∧ l.start = index ∧
          unclosed us = some outer ∧ unclosed vs = some inner := by
      rw [same] at before
      obtain ⟨us, l, vs, rfl, paren, start, outside, inside⟩ := ih before
      exact ⟨us, l, vs ++ [m], by simp, paren, start, outside,
        unclosed_concat_eq_some_iff.mpr ⟨inner', inside, nests⟩⟩
    generalize whole : inner ++ index :: outer = opened' at nests
    cases nests with
    | opens paren =>
      cases inner with
      | nil =>
        obtain ⟨rfl, rfl⟩ := List.cons.inj whole
        exact ⟨ls, m, [], rfl, paren, rfl, before, rfl⟩
      | cons index' inner =>
        obtain ⟨rfl, rfl⟩ := List.cons.inj whole
        exact further (.opens paren) rfl
    | closes paren innermost =>
      rw [← whole, ← List.cons_append] at innermost
      exact further (.closes paren rfl) innermost
    | other notOpen notClose => exact further (.other notOpen notClose) whole.symm

/-- The innermost of the open parentheses is the last one that stays open. -/
theorem exists_staysOpen_of_unclosed {index : Nat} (h : unclosed ls = some (index :: outer)) :
    ∃ l vs, StaysOpen ls l vs ∧ (∀ m ws, ¬ StaysOpen vs m ws) ∧ l.start = index := by
  have innermost : unclosed ls = some ([] ++ index :: outer) := h
  obtain ⟨us, l, vs, split, paren, start, _, balanced⟩ := exists_of_unclosed innermost
  have stays : StaysOpen ls l vs :=
    staysOpen_iff.mpr ⟨⟨us, split⟩, paren, Option.isSome_of_eq_some balanced⟩
  exact ⟨l, vs, stays, Balanced.not_staysOpen balanced, start⟩

end

/-! ### The end of a text -/

open Reading

namespace Query

variable {text : String} {f : Failure}

/-- No other failure is told as an unexpected end. -/
theorem ended_of_message (parsed : parse text = .error f)
    (ends : "Syntax error: unexpected end of query".toList <+: f.cause.message.toList) :
    ∃ s : State, State.start.run (lex text).lexemes = .ok s ∧ s.pending? = none ∧
      s.endFailure text.length = f := by
  have sort := Cause.isUnexpectedEnd_of_message ends
  cases parseFails_of_parse parsed with
  | ended ran settled unfinished failure => exact ⟨_, ran, settled, failure⟩
  | refused split ran failed refused => cases refused <;> rcases sort with sort | sort <;> cases sort
  | _ => rcases sort with sort | sort <;> cases sort

/-- A text that ends too early is told to end inside the last parenthesis that stays open, at the offset
of that parenthesis. If none stays open, it is told to end at its own end. -/
theorem unexpected_end_told (parsed : parse text = .error f)
    (ends : "Syntax error: unexpected end of query".toList <+: (f.report text).message.toList) :
    ((∃ l vs, StaysOpen (lex text).lexemes l vs) →
      ∃ l vs, StaysOpen (lex text).lexemes l vs ∧ (∀ m ws, ¬ StaysOpen vs m ws) ∧
        (f.report text).message = "Syntax error: unexpected end of query, unmatched '('" ∧
        (f.report text).index = l.start) ∧
    ((∀ l vs, ¬ StaysOpen (lex text).lexemes l vs) →
      (f.report text).message = "Syntax error: unexpected end of query" ∧
        (f.report text).index = text.length) := by
  obtain ⟨s, ran, settled, failure⟩ := ended_of_message parsed ends
  have opened := State.unclosed_of_run ran settled
  rw [State.endFailure_eq settled] at failure
  cases innermost : s.opened with
  | nil =>
    rw [innermost] at opened failure
    subst failure
    refine ⟨?_, fun _ => ⟨rfl, rfl⟩⟩
    rintro ⟨l, vs, stays⟩
    exact absurd stays (Balanced.not_staysOpen opened l vs)
  | cons index outer =>
    rw [innermost] at opened failure
    subst failure
    obtain ⟨l, vs, stays, last, start⟩ := exists_staysOpen_of_unclosed opened
    refine ⟨fun _ => ⟨l, vs, stays, last, rfl, ?_⟩, fun none => absurd stays (none l vs)⟩
    rw [start]
    rfl

/-- The parenthesis around `1` is the last one, but it is closed again; none is open behind `(x) & y +`. -/
theorem unfinishedSums_end_told :
    (parse "(x & (y = (1) +" = .error ⟨.unclosedParen, 5⟩ ∧
      "Syntax error: unexpected end of query".toList <+:
        ((⟨.unclosedParen, 5⟩ : Failure).report "(x & (y = (1) +").message.toList ∧
      ∃ l vs, StaysOpen (lex "(x & (y = (1) +").lexemes l vs ∧ (∀ m ws, ¬ StaysOpen vs m ws) ∧
        l.start = 5) ∧
    parse "(x) & y +" = .error ⟨.unexpectedEnd, 9⟩ ∧
      "Syntax error: unexpected end of query".toList <+:
        ((⟨.unexpectedEnd, 9⟩ : Failure).report "(x) & y +").message.toList ∧
      (∀ l vs, ¬ StaysOpen (lex "(x) & y +").lexemes l vs) ∧
      ((⟨.unexpectedEnd, 9⟩ : Failure).report "(x) & y +").message =
        "Syntax error: unexpected end of query" := by
  have inside : parse "(x & (y = (1) +" = .error ⟨.unclosedParen, 5⟩ := by decide +kernel
  have outside : parse "(x) & y +" = .error ⟨.unexpectedEnd, 9⟩ := by decide +kernel
  have ends : "Syntax error: unexpected end of query".toList <+:
      ((⟨.unclosedParen, 5⟩ : Failure).report "(x & (y = (1) +").message.toList := by decide +kernel
  have ends' : "Syntax error: unexpected end of query".toList <+:
      ((⟨.unexpectedEnd, 9⟩ : Failure).report "(x) & y +").message.toList := by decide +kernel
  have opened : unclosed (lex "(x & (y = (1) +").lexemes = some [5, 0] := by decide +kernel
  have balanced : Balanced (lex "(x) & y +").lexemes := by
    unfold Balanced
    decide +kernel
  obtain ⟨l, vs, stays, _, _⟩ := exists_staysOpen_of_unclosed opened
  obtain ⟨l, vs, stays, last, _, index⟩ := (unexpected_end_told inside ends).1 ⟨l, vs, stays⟩
  obtain ⟨message, _⟩ := (unexpected_end_told outside ends').2 balanced.not_staysOpen
  exact ⟨⟨inside, ends, l, vs, stays, last, (Int.natCast_inj.mp index).symm⟩, outside, ends',
    balanced.not_staysOpen, message⟩

end Query

end TemporalQuery
