import TemporalQuery.Proofs.Lexing.Spelling

/-!
# Names between quotes

`Detached cs ts`: the text `cs` spells `ts`, and no word touches the quotes in it from outside. Such a name
can be written without its quotes, and the tokens around it stay as they are (`Framed.tokens_bare`).
-/

namespace TemporalQuery

namespace Lexeme

/-- No word goes on with the text `u`, and none is gone on with by `v`. -/
structure Framed (u v : List Char) : Prop where
  front : ∀ c ∈ u.getLast?, isWordChar c = false
  behind : ∀ d ∈ v.head?, isWordChar d = false

structure Detached (cs : List Char) (ts : List Token) : Prop where
  spells : Spells cs ts
  around : ∀ us x vs, ts = us ++ .quoted x :: vs →
    ∃ u v, cs = u ++ ((Identifier.quoted x).toList ++ v) ∧ Spells u us ∧ Spells v vs ∧ Framed u v

theorem toList_quoted (x : String) : (Identifier.quoted x).toList = '"' :: (x.toList ++ ['"']) := by
  simp [Identifier.quoted]

/-! ### Texts put together -/

/-- Two texts may touch where no word meets a quote. -/
def Clear (u v : List Char) : Prop :=
  ∀ c ∈ u.getLast?, ∀ d ∈ v.head?, (isWordChar c → d ≠ '"') ∧ (c = '"' → isWordChar d = false)

variable {u v : List Char} {ts us : List Token} {c : Char}

theorem Clear.of_front (notWord : isWordChar c = false) (notQuote : c ≠ '"') : Clear [c] v := by
  intro e he d _
  obtain rfl := Option.some.inj he
  exact ⟨fun word => absurd word (by simp [notWord]), fun quote => absurd quote notQuote⟩

theorem Clear.of_behind (notWord : isWordChar c = false) (notQuote : c ≠ '"') : Clear u (c :: v) := by
  intro e _ d hd
  obtain rfl := Option.some.inj hd
  exact ⟨fun _ => notQuote, fun _ => notWord⟩

theorem clear_nil (u : List Char) : Clear u [] := by
  intro c _ d hd
  exact absurd hd nofun

theorem Clear.append_right {w : List Char} (hv : Clear u v) (hw : Clear u w) : Clear u (v ++ w) := by
  intro c hc d hd
  rw [List.head?_append] at hd
  rcases Option.or_eq_some_iff.mp hd with found | ⟨_, found⟩
  · exact hv c hc d found
  · exact hw c hc d found

/-- A token of the one text or of the other. -/
theorem exists_of_append_eq_append_cons {α : Type} {xs ys zs ws : List α} {a : α}
    (h : xs ++ ys = zs ++ a :: ws) :
    (∃ ms, xs = zs ++ a :: ms ∧ ws = ms ++ ys) ∨ ∃ ms, ys = ms ++ a :: ws ∧ zs = xs ++ ms := by
  rcases List.append_eq_append_iff.mp h with ⟨ms, split, rest⟩ | ⟨ms, split, rest⟩
  · exact .inr ⟨ms, rest, split⟩
  · cases ms with
    | nil => exact .inr ⟨[], rest.symm, by simpa using split.symm⟩
    | cons b ms =>
      obtain ⟨rfl, rfl⟩ := List.cons.inj rest
      exact .inl ⟨ms, split, rfl⟩

theorem Framed.append_right (h : Framed u v) {w : List Char}
    (free : v = [] → ∀ d ∈ w.head?, isWordChar d = false) : Framed u (v ++ w) := by
  refine ⟨h.front, fun d hd => ?_⟩
  rw [List.head?_append] at hd
  rcases Option.or_eq_some_iff.mp hd with found | ⟨none, found⟩
  · exact h.behind d found
  · exact free (List.head?_eq_none_iff.mp none) d found

theorem Framed.append_left (h : Framed u v) {w : List Char}
    (free : u = [] → ∀ c ∈ w.getLast?, isWordChar c = false) : Framed (w ++ u) v := by
  refine ⟨fun c hc => ?_, h.behind⟩
  rw [List.getLast?_append] at hc
  rcases Option.or_eq_some_iff.mp hc with found | ⟨none, found⟩
  · exact h.front c found
  · exact free (List.getLast?_eq_none_iff.mp none) c found

namespace Detached

theorem of_spells (h : Spells u ts) (plain : ∀ x, .quoted x ∉ ts) : Detached u ts :=
  ⟨h, fun us x vs split => absurd (split ▸ by simp) (plain x)⟩

theorem append (hu : Detached u ts) (hv : Detached v us) (apart : Apart u v) (clear : Clear u v) :
    Detached (u ++ v) (ts ++ us) where
  spells := hu.spells.append hv.spells apart
  around ls x rs split := by
    rcases exists_of_append_eq_append_cons split with ⟨ms, rfl, rfl⟩ | ⟨ms, rfl, rfl⟩
    · obtain ⟨a, b, rfl, front, behind, framed⟩ := hu.around ls x ms rfl
      have further : Apart b v := by
        rw [← List.append_assoc] at apart
        simpa using apart.drop (a ++ (Identifier.quoted x).toList).length
      refine ⟨a, b ++ v, by simp, front, behind.append hv.spells further, framed.append_right ?_⟩
      rintro rfl d hd
      have last : (a ++ ((Identifier.quoted x).toList ++ [])).getLast? = some '"' := by
        rw [List.append_nil, toList_quoted, ← List.cons_append, ← List.append_assoc, List.getLast?_concat]
      exact (clear '"' last d hd).2 rfl
    · obtain ⟨a, b, rfl, front, behind, framed⟩ := hv.around ms x rs rfl
      have earlier : Apart u a := by
        intro c hc d hd
        exact apart c hc d (by simp [Option.mem_def.mp hd])
      refine ⟨u ++ a, b, by simp, hu.spells.append front earlier, behind, framed.append_left ?_⟩
      rintro rfl c hc
      have notWord := (clear c hc '"' (by simp [toList_quoted])).1
      simpa using mt notWord (by simp)

theorem nil : Detached [] [] := of_spells .nil (by simp)

theorem blank : Detached [' '] [] := of_spells spells_blank (by simp)

theorem spaced (hu : Detached u ts) (hv : Detached v us) : Detached (u ++ ' ' :: v) (ts ++ us) := by
  have behind : Detached (' ' :: v) us :=
    blank.append hv (Apart.of_isLoose_last (u := []) rfl) (.of_front rfl (by decide))
  exact hu.append behind (.of_isLoose_head rfl) (.of_behind rfl (by decide))

theorem symbol {t : Token} (h : symbol? c [] = some (t, 0)) (plain : ∀ x, t ≠ .quoted x) :
    Detached [c] [t] :=
  of_spells (spells_symbol h) fun x => by simpa using (plain x).symm

theorem parenthesized {s : String} (h : Detached s.toList ts) :
    Detached (TemporalQuery.parenthesized s).toList (.openParen :: (ts ++ [.closeParen])) := by
  have closed : Detached (s.toList ++ [')']) (ts ++ [.closeParen]) :=
    h.append (symbol rfl nofun) (.of_isLoose_head rfl) (.of_behind rfl (by decide))
  have opening : Detached ['('] [.openParen] := symbol rfl nofun
  have whole := opening.append closed (Apart.of_isLoose_last (u := []) rfl) (.of_front rfl (by decide))
  simpa [TemporalQuery.parenthesized] using whole

theorem negation (h : Detached u ts) (apart : Apart ['!'] u) :
    Detached ('!' :: u) (.unary .negation "!" :: ts) := by
  have sign : Detached ['!'] [.unary .negation "!"] := symbol rfl nofun
  exact sign.append h apart (.of_front rfl (by decide))

theorem minus (h : Detached u ts) : Detached ('-' :: u) (.arith .subtract :: ts) := by
  have sign : Detached ['-'] [.arith .subtract] := symbol rfl nofun
  exact sign.append h (Apart.of_isLoose_last (u := []) rfl) (.of_front rfl (by decide))

/-- A name between quotes that is a text of its own touches nothing. -/
theorem quoted {x : String} (h : Identifier.IsWord x) :
    Detached (Identifier.quoted x).toList [.quoted x] where
  spells := Identifier.spells_quoted h
  around us y vs split := by
    rcases List.singleton_eq_append_iff.mp split with ⟨rfl, same⟩ | ⟨_, same⟩
    · obtain ⟨named, rfl⟩ := List.cons.inj same
      obtain rfl := Token.quoted.inj named
      exact ⟨[], [], by simp, .nil, .nil, nofun, nofun⟩
    · cases same

end Detached

/-! ### Without the quotes -/

section

variable {vs : List Token} {w : List Char} {line : Int} {start : Nat}

theorem Framed.apart_word (h : Framed u v) (nonempty : w ≠ []) (word : ∀ c ∈ w, isWordChar c) :
    Apart u (w ++ v) ∧ Apart w v := by
  constructor
  · intro c hc d hd
    have first : d ∈ w.head? := by
      cases w with
      | nil => exact absurd rfl nonempty
      | cons e w => exact hd
    refine joins_of_isWordChar_ne ?_
    rw [h.front c hc, word d (List.mem_of_mem_head? first)]
    decide
  · intro c hc d hd
    refine joins_of_isWordChar_ne ?_
    rw [h.behind d hd, word c (List.mem_of_getLast? hc)]
    decide

/-- A word that is no token is a fault of the text. -/
theorem Framed.exists_ofWord (h : Framed u v) (nonempty : w ≠ []) (word : ∀ c ∈ w, isWordChar c)
    (clean : (lexFrom line start (w ++ v)).fault = none) : ∃ t, ofWord w = .ok t := by
  cases w with
  | nil => exact absurd rfl nonempty
  | cons c cs =>
    rw [List.forall_mem_cons] at word
    obtain ⟨_, noNewline, notSkipped, noDouble, noSingle⟩ := isWordChar_spec word.1
    have whole : (cs ++ v).takeWhile isWordChar = cs := by
      rw [takeWhile_isWordChar_append fun _ => h.behind, List.takeWhile_eq_self_iff.mpr word.2]
    cases made : ofWord (c :: cs) with
    | ok t => exact ⟨t, rfl⟩
    | error fault =>
      have found : longest c (cs ++ v) = .error fault := by
        rw [longest, if_neg (not_or.mpr ⟨noDouble, noSingle⟩), if_pos word.1, whole]
        simp only [made, Except.map]
      rw [List.cons_append, lexFrom, if_neg noNewline, if_neg (by simp [notSkipped]), found] at clean
      cases clean

/-- The word stands for one token, between those that were around the quotes. -/
theorem Framed.tokens_bare (framed : Framed u v) (front : Spells u us) (behind : Spells v vs)
    (nonempty : w ≠ []) (word : ∀ c ∈ w, isWordChar c)
    (clean : (lexFrom line start (u ++ (w ++ v))).fault = none) :
    ∃ t, ofWord w = .ok t ∧ (lexFrom line start (u ++ (w ++ v))).tokens = us ++ t :: vs := by
  obtain ⟨apartFront, apartBehind⟩ := framed.apart_word nonempty word
  obtain ⟨_, cleanFront⟩ := front line start
  have rest := clean
  rw [lexFrom_append cleanFront apartFront] at rest
  obtain ⟨t, made⟩ := framed.exists_ofWord nonempty word rest
  have spelled := (spells_word nonempty word made).append behind apartBehind
  exact ⟨t, made, (front.append spelled apartFront line start).1⟩

theorem start_of_lexFrom_cons {l : Lexeme} {ls : List Lexeme} (noNewline : c ≠ '\n')
    (notSkipped : ¬ isSkipped c) (h : (lexFrom line start (c :: u)).lexemes = l :: ls) :
    l.start = start := by
  rw [lexFrom, if_neg noNewline, if_neg notSkipped] at h
  split at h
  · cases h
  · rw [← (List.cons.inj h).1]

/-- The quotes stand where the text in front of them ends. -/
theorem start_of_quoted {ms ns : List Lexeme} {l : Lexeme} {x : String}
    (front : Spells u (ms.map (·.token)))
    (split : (lexFrom line start (u ++ ((Identifier.quoted x).toList ++ v))).lexemes = ms ++ l :: ns) :
    l.start = start + u.length := by
  obtain ⟨tokens, clean⟩ := front line start
  have apart : Apart u ((Identifier.quoted x).toList ++ v) := by
    rw [toList_quoted]
    exact .of_isLoose_head rfl
  have length : (lexFrom line start u).lexemes.length = ms.length := by
    simpa [Lexed.tokens] using congrArg List.length tokens
  rw [lexFrom_append clean apart] at split
  have rest := (List.append_inj split length).2
  rw [toList_quoted] at rest
  exact start_of_lexFrom_cons (by decide) (by decide) rest

end

end Lexeme

namespace Identifier

open Lexeme

/-- A name stands between quotes where its text has them. -/
theorem needsQuotes_of_token {x y : String} (h : token x = .quoted y) : needsQuotes y ∧ x = y := by
  unfold token at h
  split at h
  · rename_i needed
    obtain rfl := Token.quoted.inj h
    exact ⟨needed, rfl⟩
  · cases found : Token.keyword? x with
    | none => simp [found] at h
    | some t =>
      -- A keyword that is a name opens a query, and no quoted name does.
      rw [found, Option.getD_some] at h
      have named := Token.name?_keyword? found
      rw [h] at named
      cases named

theorem detached_text {x : String} (h : IsWord x) : Detached (text x).toList [token x] := by
  by_cases needed : needsQuotes x
  · rw [text, token, if_pos needed, if_pos needed]
    exact .quoted h
  · refine .of_spells (spells_text h) fun y mem => needed ?_
    obtain ⟨quotes, rfl⟩ := needsQuotes_of_token (List.mem_singleton.mp mem).symm
    exact quotes

end Identifier

end TemporalQuery
