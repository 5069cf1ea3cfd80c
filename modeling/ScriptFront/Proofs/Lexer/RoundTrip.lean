import ScriptFront.Proofs.Lexer.Scan
import ScriptFront.Token.Layout

/-!
# Writing tokens and reading them back

A layout of well-formed tokens is read back exactly if clashing neighbours are kept apart
(`tokenize_text_iff`), and the tokens of any text are a layout of it, with at most the last quote
missing (`exists_layout_tokenize`). A scan is the link between the two: it is what a separated
layout looks like from behind its text (`Layout.scan_text`), and every scan is one of a layout
(`Scan.exists_layout`).
-/

namespace ScriptFront

namespace Layout

variable {lead gap : String} {t : Token} {l : Layout}

theorem text_cons (t : Token) (gap : String) (l : Layout) :
    text ((t, gap) :: l) = t.lexeme ++ gap ++ text l := rfl

theorem IsGap.not_absorbs (h : IsGap gap) {k : Kind} {c : Char} (hc : c ∈ gap.toList.head?) :
    ¬ k.Absorbs c := by
  intro hk
  have hb := h c (List.mem_of_mem_head? hc)
  simp [Kind.isBlank_of_absorbs hk] at hb

/-- Neighbours are separated when no token absorbs the character behind it. -/
theorem separated_cons_iff (h : WellFormed ((t, gap) :: l)) :
    Separated ((t, gap) :: l) ↔
      (∀ c ∈ (gap ++ text l).toList.head?, ¬ t.kind.Absorbs c) ∧ Separated l := by
  have hgap : IsGap gap := (h _ List.mem_cons_self).2
  by_cases hg : gap = ""
  · subst hg
    cases l with
    | nil => simp [Separated, text]
    | cons p l =>
      rcases p with ⟨u, gap'⟩
      obtain ⟨c, r, hc, ho⟩ := (h (u, gap') (by simp)).1.exists_opensWith
      simp [Separated, text_cons, hc, Token.clash_iff ho]
  · obtain ⟨b, r, hb⟩ := List.exists_cons_of_ne_nil (l := gap.toList) (by simpa using hg)
    have hnot : ¬ t.kind.Absorbs b := hgap.not_absorbs (by simp [hb])
    cases l with
    | nil => simp [Separated, text, hb, hnot]
    | cons p l => simp [Separated, hg, hb, hnot]

/-- A separated layout is scanned token by token. -/
theorem scan_text (hl : WellFormed l) (hs : Separated l) (hlead : IsGap lead) :
    Scan (lead ++ text l).toList ((tokens l).map .ofLexeme) := by
  induction l generalizing lead with
  | nil => exact .blank (by simpa [text, IsGap] using hlead)
  | cons p l ih =>
    rcases p with ⟨t, gap⟩
    obtain ⟨hbound, hs⟩ := (separated_cons_iff hl).1 hs
    obtain ⟨ht, hgap⟩ := hl (t, gap) List.mem_cons_self
    have hrest := ih (fun p hp => hl p (List.mem_cons_of_mem _ hp)) hs hgap
    have hscan := Scan.token hlead (.lexeme ht hbound) hrest
    simpa [text_cons, tokens] using hscan

/-- A layout that is scanned token by token is separated. -/
theorem separated_of_scan {rs : List Reading} (hl : WellFormed l) (hlead : IsGap lead)
    (h : Scan (lead ++ text l).toList rs) (ht : rs.map (·.token) = tokens l) : Separated l := by
  induction l generalizing lead rs with
  | nil => trivial
  | cons p l ih =>
    rcases p with ⟨t, gap⟩
    obtain ⟨htw, hgap⟩ := hl (t, gap) List.mem_cons_self
    obtain ⟨c, tail, hc, ho⟩ := htw.exists_opensWith
    -- Behind the blanks, the text starts both with `t` and with the first token of the scan.
    have hdrop : (lead ++ text ((t, gap) :: l)).toList.dropWhile isBlank =
        t.lexeme.toList ++ (gap ++ text l).toList := by
      simpa [text_cons, hc] using dropWhile_isBlank_append hlead (Kind.isBlank_of_opensWith ho)
    generalize (lead ++ text ((t, gap) :: l)).toList = cs at h hdrop
    cases h with
    | blank _ => cases ht
    | token hg hm hs =>
      rw [hm.dropWhile_isBlank hg] at hdrop
      obtain ⟨hhead, htail⟩ := List.cons.inj ht
      cases hm with
      | lexeme ht' hb =>
        obtain rfl : _ = t := hhead
        obtain rfl := List.append_cancel_left hdrop
        exact (separated_cons_iff hl).2
          ⟨hb, ih (fun p hp => hl p (List.mem_cons_of_mem _ hp)) hgap hs htail⟩
      | openString hq =>
        obtain rfl : _ = t := hhead
        have := congrArg List.length hdrop
        simp [Reading.openString, Token.toList_lexeme_string] at this

end Layout

/-- Every scan is one of a layout, but for the last quote. -/
theorem Scan.exists_layout {cs : List Char} {rs : List Reading} (h : Scan cs rs) :
    ∃ (lead : String) (l : Layout), Layout.IsGap lead ∧ l.WellFormed ∧
      l.tokens = rs.map (·.token) ∧
      (String.ofList cs = lead ++ l.text ∨
        ∃ (init : Layout) (text : String), l = init ++ [(⟨.string, text⟩, "")] ∧
          String.ofList cs = lead ++ init.text ++ "\"" ++ text) := by
  induction h with
  | @blank gap hg =>
    refine ⟨.ofList gap, [], by simpa [Layout.IsGap] using hg, by simp [Layout.WellFormed], rfl, ?_⟩
    exact Or.inl (by simp [Layout.text])
  | @token gap read rest r rs hg hm hs ih =>
    have hlead : Layout.IsGap (.ofList gap) := by simpa [Layout.IsGap] using hg
    cases hm with
    | @lexeme t _ ht hb =>
      obtain ⟨lead, l, hlead', hl, htokens, htext⟩ := ih
      refine ⟨.ofList gap, (t, lead) :: l, hlead, ?_, ?_, ?_⟩
      · simpa [Layout.WellFormed, ht, hlead'] using hl
      · simpa [Layout.tokens, Reading.ofLexeme] using htokens
      · rcases htext with htext | ⟨init, text, rfl, htext⟩
        · exact Or.inl (by simp [htext, Layout.text_cons, String.append_assoc])
        · refine Or.inr ⟨(t, lead) :: init, text, rfl, ?_⟩
          simp [htext, Layout.text_cons, String.append_assoc]
    | @openString text hq =>
      obtain rfl := hs.eq_nil_of_isBlank (by simp)
      refine ⟨.ofList gap, [(⟨.string, .ofList text⟩, "")], hlead, ?_, rfl, Or.inr ?_⟩
      · simpa [Layout.WellFormed, Layout.IsGap, Token.WellFormed] using hq
      · exact ⟨[], .ofList text, rfl, by simp [Layout.text, String.append_assoc]⟩

/-! ### Both ways through the lexer -/

/-- Well-formed tokens, written with blanks between them, are read back exactly if every pair of
neighbours that clash has a blank between them. -/
theorem tokenize_text_iff (lead : String) (l : Layout) (hlead : Layout.IsGap lead)
    (hl : l.WellFormed) :
    ((Lexer.ofString (lead ++ l.text)).tokenize.value = l.tokens ++ [.endOfInput] ↔
        l.Separated) ∧
      (tokensOf (lead ++ l.text) = l.tokens ↔ l.Separated) := by
  have key : tokensOf (lead ++ l.text) = l.tokens ↔ l.Separated := by
    constructor
    · intro h
      obtain ⟨rs, hs⟩ := exists_scan (lead ++ l.text).toList
      exact Layout.separated_of_scan hl hlead hs ((collect_ofString hs).1 ▸ h)
    · intro hsep
      rw [(collect_ofString (Layout.scan_text hl hsep hlead)).1, List.map_map]
      exact List.map_id _
  refine ⟨?_, key⟩
  rw [tokenize_ofString, List.append_left_inj]
  exact key

/-- Neighbours of which only the first two need the blank between them. -/
def Layout.tight : Layout :=
  [(.ofSymbol .bang, "\n"), (.ofSymbol .equal, ""), (.ofSymbol .assign, ""), (⟨.string, "é ="⟩, ""),
    (.ofWord "lets", "")]

theorem tokenize_text_tight :
    Layout.IsGap " " ∧ Layout.tight.WellFormed ∧
      (Lexer.ofString " !\n===\"é =\"lets").tokenize.value =
        [.ofSymbol .bang, .ofSymbol .equal, .ofSymbol .assign, ⟨.string, "é ="⟩, .ofWord "lets",
          .endOfInput] := by
  have hlead : Layout.IsGap " " := by simp [Layout.IsGap]; decide
  have hl : Layout.tight.WellFormed := by
    have hletters : "lets".toList.all isLetter = true := by decide
    have hw : (Token.ofWord "lets").WellFormed :=
      Token.wellFormed_ofWord_iff.2 ⟨by decide, List.all_eq_true.1 hletters⟩
    have hn : Layout.IsGap "\n" := by simp [Layout.IsGap]; decide
    simp only [Layout.tight, Layout.WellFormed, List.forall_mem_cons, hw, hn, and_true]
    simp [Token.WellFormed, Token.ofSymbol, Layout.IsGap]
  have hsep : Layout.tight.Separated := by
    simp [Layout.tight, Layout.Separated, Token.Clash, Token.ofSymbol, Token.isWord, Kind.isKeyword]
  exact ⟨hlead, hl, (tokenize_text_iff " " Layout.tight hlead hl).1.2 hsep⟩

-- Without the blank the first two are read as two others.
example : tokensOf "!==" = [.ofSymbol .notEqual, .ofSymbol .assign] := by decide +kernel

/-- Nothing of a text is lost and nothing is added: the tokens are well-formed, and they are a
layout of the text with the end of the input behind them. Only the last quote may be missing. -/
theorem exists_layout_tokenize (source : String) :
    ∃ (lead : String) (l : Layout), Layout.IsGap lead ∧ l.WellFormed ∧
      (Lexer.ofString source).tokenize.value = l.tokens ++ [.endOfInput] ∧
      (∀ t ∈ l.tokens, t.kind ≠ .endOfInput) ∧
      (source = lead ++ l.text ∨
        ∃ (init : Layout) (text : String), l = init ++ [(⟨.string, text⟩, "")] ∧
          source = lead ++ init.text ++ "\"" ++ text) := by
  obtain ⟨rs, hs⟩ := exists_scan source.toList
  obtain ⟨lead, l, hlead, hl, htokens, htext⟩ := hs.exists_layout
  refine ⟨lead, l, hlead, hl, ?_, ?_, by simpa using htext⟩
  · rw [tokenize_ofString, (collect_ofString hs).1, htokens]
  · intro t ht hk
    obtain ⟨p, hp, rfl⟩ := List.mem_map.1 ht
    exact (hl p hp).1.kind_ne_endOfInput hk

end ScriptFront
