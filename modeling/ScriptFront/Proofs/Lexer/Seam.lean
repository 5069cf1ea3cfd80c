import ScriptFront.Proofs.Lexer.Growth

/-!
# Seams

Where two texts meet, they glue (`Glues`) if the last token of the first absorbs the first character
of the second (`glues_iff`). Texts that do not glue are read one after the other; texts that do have
as many tokens together as apart, or one token less (`tokensOf_append_iff`).
-/

namespace ScriptFront

/-- Letters or digits meet at the seam of the texts, or an `=` follows directly on a last token `=` or
`!`. -/
def Glues (a b : String) : Prop :=
  (∃ d ∈ a.toList.getLast?, ∃ c ∈ b.toList.head?,
      (isLetter d = true ∧ isLetter c = true) ∨ (isDigit d = true ∧ isDigit c = true)) ∨
    (b.toList.head? = some '=' ∧ (∀ d ∈ a.toList.getLast?, isBlank d = false) ∧
      ∃ t ∈ (tokensOf a).getLast?, t.kind = .symbol .assign ∨ t.kind = .symbol .bang)

/-! ### The end of the first text -/

variable {a b : String}

theorem exists_mem_getLast? {t : Token} (ht : t ∈ tokensOf a) : ∃ d, d ∈ a.toList.getLast? := by
  cases hlast : a.toList.getLast? with
  | none =>
    obtain rfl : a = "" := String.toList_eq_nil_iff.1 (List.getLast?_eq_none_iff.1 hlast)
    have hnil : tokensOf "" = [] := by decide +kernel
    simp [hnil] at ht
  | some d => exact ⟨d, rfl⟩

/-- A text that ends neither in a blank nor in an open string ends with the lexeme of its last
token. -/
theorem exists_last_lexeme {d : Char} (heven : a.toList.count '"' % 2 = 0)
    (hd : d ∈ a.toList.getLast?) (hblank : isBlank d = false) :
    ∃ init t, tokensOf a = init ++ [t] ∧ t.WellFormed ∧ d ∈ t.lexeme.toList.getLast? ∧
      Ending a init (.ofLexeme t) t.lexeme.toList [] := by
  rcases List.eq_nil_or_concat' (tokensOf a) with hnil | ⟨init, t, htokens⟩
  · obtain ⟨rs, hs⟩ := exists_scan a.toList
    obtain rfl : rs = [] := by
      rw [(collect_ofString hs).1] at hnil
      exact List.map_eq_nil_iff.1 hnil
    simp [hs.isBlank_of_mem (List.mem_of_getLast? hd)] at hblank
  · obtain ⟨r, read, gap, rfl, hending⟩ := exists_ending htokens
    obtain rfl : gap = [] := by
      by_contra hne
      obtain ⟨front, ha⟩ := hending.isSuffix
      rw [← ha, ← List.append_assoc, List.getLast?_append_of_ne_nil _ hne] at hd
      simp [hending.blank d (List.mem_of_getLast? hd)] at hblank
    obtain ⟨rfl, hr⟩ := hending.munch.eq_lexeme (hending.closed heven)
    refine ⟨init, r.token, htokens, hending.munch.wellFormed, ?_, hr ▸ hending⟩
    rwa [← hending.getLast?_eq]

/-- Texts glue if the last token of the first absorbs what the second starts with. -/
theorem glues_iff (heven : a.toList.count '"' % 2 = 0) :
    Glues a b ↔ ∃ c ∈ b.toList.head?, ∃ d ∈ a.toList.getLast?, isBlank d = false ∧
      ∃ t ∈ (tokensOf a).getLast?, t.kind.Absorbs c := by
  constructor
  · rintro (⟨d, hd, c, hc, hclass⟩ | ⟨hc, hblank, t, ht, hkind⟩)
    · have hblank : isBlank d = false := by
        rcases hclass with ⟨hl, -⟩ | ⟨hdigit, -⟩
        · exact isBlank_eq_false_of_isLetter hl
        · exact isBlank_eq_false_of_isDigit hdigit
      obtain ⟨init, t, htokens, hwf, hlast, -⟩ := exists_last_lexeme heven hd hblank
      obtain ⟨hword, hinteger⟩ := hwf.class_of_getLast hlast
      refine ⟨c, hc, d, hd, hblank, t, by simp [htokens], Token.absorbs_iff.2 ?_⟩
      rcases hclass with ⟨hl, hl'⟩ | ⟨hdigit, hdigit'⟩
      · exact Or.inl ⟨hword ▸ hl, hl'⟩
      · exact Or.inr (Or.inl ⟨by simpa [hinteger] using hdigit, hdigit'⟩)
    · obtain ⟨d, hd⟩ := exists_mem_getLast? (List.mem_of_getLast? ht)
      exact ⟨'=', hc, d, hd, hblank d hd, t, ht, Token.absorbs_iff.2 (Or.inr (Or.inr ⟨hkind, rfl⟩))⟩
  · rintro ⟨c, hc, d, hd, hblank, t, ht, habs⟩
    obtain ⟨init, t', htokens, hwf, hlast, -⟩ := exists_last_lexeme heven hd hblank
    obtain rfl : t' = t := by simpa [htokens] using ht
    obtain ⟨hword, hinteger⟩ := hwf.class_of_getLast hlast
    rcases Token.absorbs_iff.1 habs with ⟨hw, hl⟩ | ⟨hi, hdigit⟩ | ⟨hk, rfl⟩
    · exact Or.inl ⟨d, hd, c, hc, Or.inl ⟨hword.trans hw, hl⟩⟩
    · exact Or.inl ⟨d, hd, c, hc, Or.inr ⟨by simp [hinteger, hi], hdigit⟩⟩
    · refine Or.inr ⟨hc, fun e he => ?_, t', ht, hk⟩
      obtain rfl : d = e := Option.mem_unique hd he
      exact hblank

/-! ### Texts that glue -/

/-- An `=` in front of a text makes one token more of it, or none more if the text starts with a run
of `=` that is now paired in another way. -/
theorem length_tokensOf_equals (cs : List Char) :
    (tokensOf (.ofList ('=' :: cs))).length = (tokensOf (.ofList cs)).length ∨
      (tokensOf (.ofList ('=' :: cs))).length = (tokensOf (.ofList cs)).length + 1 := by
  induction cs with
  | nil => decide +kernel
  | cons c cs ih =>
    by_cases hc : c = '='
    · subst hc
      have hm : Munch ['=', '='] cs (.ofLexeme (.ofSymbol .equal)) := .symbolEquals rfl rfl cs
      have htokens : tokensOf (.ofList ('=' :: '=' :: cs)) = _ := hm.tokensOf_eq
      rw [htokens, List.length_cons]
      omega
    · have hm : Munch ['='] (c :: cs) (.ofLexeme (.ofSymbol .assign)) := by
        refine .symbol rfl fun d hd habs => hc ?_
        obtain rfl : c = d := Option.some.inj hd
        exact habs.2
      have htokens : tokensOf (.ofList ('=' :: c :: cs)) = _ := hm.tokensOf_eq
      rw [htokens, List.length_cons]
      omega

/-- Behind the characters that a token takes in, as many tokens follow as with them, or one less. -/
theorem Absorption.length_tokensOf {t u : Token} {c : Char} {more run rest : List Char}
    (h : Absorption t c more u run rest) :
    (tokensOf (.ofList (c :: more))).length = (tokensOf (.ofList rest)).length ∨
      (tokensOf (.ofList (c :: more))).length = (tokensOf (.ofList rest)).length + 1 := by
  rcases h.alone with ⟨r, hm⟩ | ⟨rfl, rfl⟩
  · right
    rw [h.split, ← List.cons_append, hm.tokensOf_eq, List.length_cons]
  · rw [h.split, List.nil_append]
    exact length_tokensOf_equals rest

theorem Absorption.ne {t u : Token} {c : Char} {more run rest : List Char}
    (h : Absorption t c more u run rest) : u ≠ t := by
  rintro rfl
  have hlength := congrArg String.length h.literal_eq
  simp at hlength

/-! ### Both texts -/

/-- The tokens of two texts are those of the first and those of the second, unless the texts glue.
If they do, the tokens are others, and they are as many as those of the two texts, or one less. -/
theorem tokensOf_append_iff (a b : String) (heven : a.toList.count '"' % 2 = 0) :
    (tokensOf (a ++ b) = tokensOf a ++ tokensOf b ↔ ¬ Glues a b) ∧
      (Glues a b → (tokensOf (a ++ b)).length = (tokensOf a).length + (tokensOf b).length ∨
        (tokensOf (a ++ b)).length + 1 = (tokensOf a).length + (tokensOf b).length) := by
  by_cases hglues : Glues a b
  · obtain ⟨c, hc, d, hd, hblank, t, ht, habs⟩ := (glues_iff heven).1 hglues
    obtain ⟨init, t', htokens, hwf, -, hending⟩ := exists_last_lexeme heven hd hblank
    obtain rfl : t' = t := by simpa [htokens] using ht
    obtain ⟨more, hb⟩ := List.head?_eq_some_iff.1 hc
    obtain ⟨u, run, rest, h⟩ := exists_absorption hwf habs more
    have hglued : tokensOf (a ++ b) = init ++ [u] ++ tokensOf (.ofList rest) := by
      refine hending.tokensOf_append b _ rest _ ?_ h.munch
      simp [hb, h.split]
    have hcount := h.length_tokensOf
    rw [← hb, String.ofList_toList] at hcount
    refine ⟨iff_of_false (fun happend => ?_) (not_not.2 hglues), fun _ => ?_⟩
    · rw [hglued, htokens, List.append_assoc, List.append_assoc] at happend
      exact h.ne (List.cons.inj (List.append_cancel_left happend)).1
    · rw [hglued, htokens]
      simp only [List.length_append, List.length_singleton]
      omega
  · refine ⟨iff_of_true ?_ hglues, fun h => absurd h hglues⟩
    obtain ⟨rs, hs⟩ := exists_scan a.toList
    obtain ⟨rs', hs'⟩ := exists_scan b.toList
    have hscan : Scan (a.toList ++ b.toList) (rs ++ rs') := by
      apply hs.append hs' (hs.closed_of_even heven)
      intro c hc r hr habs
      have ht : r.token ∈ (tokensOf a).getLast? := by
        rw [(collect_ofString hs).1, List.getLast?_map]
        exact Option.mem_map_of_mem _ hr
      obtain ⟨d, hd⟩ := exists_mem_getLast? (List.mem_of_getLast? ht)
      by_contra hnone
      have hblank : isBlank d = false := by
        rw [Bool.eq_false_iff]
        exact fun hblank => hnone ⟨d, hd, hblank⟩
      exact hglues ((glues_iff heven).2 ⟨c, hc, d, hd, hblank, r.token, ht, habs⟩)
    rw [← String.toList_append] at hscan
    rw [(collect_ofString hscan).1, (collect_ofString hs).1, (collect_ofString hs').1,
      List.map_append]

theorem tokensOf_append_bang_equals :
    "\"é\" !".toList.count '"' % 2 = 0 ∧ Glues "\"é\" !" "==x" ∧
      tokensOf ("\"é\" !" ++ "==x") ≠ tokensOf "\"é\" !" ++ tokensOf "==x" ∧
      ((tokensOf ("\"é\" !" ++ "==x")).length =
          (tokensOf "\"é\" !").length + (tokensOf "==x").length ∨
        (tokensOf ("\"é\" !" ++ "==x")).length + 1 =
          (tokensOf "\"é\" !").length + (tokensOf "==x").length) := by
  have heven : "\"é\" !".toList.count '"' % 2 = 0 := by decide +kernel
  have hend : "\"é\" !".toList.getLast? = some '!' := by decide +kernel
  have hblank (d : Char) (hd : d ∈ "\"é\" !".toList.getLast?) : isBlank d = false := by
    obtain rfl : '!' = d := Option.some.inj (hend.symm.trans hd)
    decide
  have hlast : Token.ofSymbol .bang ∈ (tokensOf "\"é\" !").getLast? := by decide +kernel
  have hglues : Glues "\"é\" !" "==x" := Or.inr ⟨rfl, hblank, _, hlast, Or.inr rfl⟩
  obtain ⟨happend, hlength⟩ := tokensOf_append_iff "\"é\" !" "==x" heven
  exact ⟨heven, hglues, fun h => happend.1 h hglues, hlength hglues⟩

-- As many tokens as apart, but paired in another way.
example : tokensOf ("!" ++ "==x") = [.ofSymbol .notEqual, .ofSymbol .assign, .ofWord "x"] := by
  decide +kernel

end ScriptFront
