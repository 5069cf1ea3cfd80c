import ScriptFront.Proofs.Lexer.Scan

/-!
# Texts side by side

Two texts are scanned one after the other (`Scan.append`) if the first leaves no string open and the
second does not start with a character that lengthens the last token of the first. Blanks at the end
of the first keep them apart in any case. Whatever the second text makes of the last token, the tokens
before it stay as they are (`Scan.exists_last`).
-/

namespace ScriptFront

theorem Scan.blank_append {gap cs : List Char} {rs : List Reading} (h : Scan cs rs)
    (hg : ∀ c ∈ gap, isBlank c = true) : Scan (gap ++ cs) rs := by
  cases h with
  | blank hg' => exact .blank (List.forall_mem_append.2 ⟨hg, hg'⟩)
  | token hg' hm hs =>
    rw [← List.append_assoc]
    exact .token (List.forall_mem_append.2 ⟨hg, hg'⟩) hm hs

/-- A token that is not an open string stays as it is when more text follows that does not
lengthen it. -/
theorem Munch.append {read rest more : List Char} {r : Reading} (h : Munch read rest r)
    (closed : .unterminatedString ∉ r.faults)
    (apart : rest = [] → ∀ c ∈ more.head?, ¬ r.token.kind.Absorbs c) :
    Munch read (rest ++ more) r := by
  cases h with
  | lexeme ht hb =>
    refine .lexeme ht ?_
    cases rest with
    | nil => exact apart rfl
    | cons c rest => exact hb
  | openString _ => simp [Reading.openString] at closed

theorem Munch.eq_lexeme {read rest : List Char} {r : Reading} (h : Munch read rest r)
    (closed : .unterminatedString ∉ r.faults) :
    read = r.token.lexeme.toList ∧ r = .ofLexeme r.token := by
  cases h with
  | lexeme _ _ => exact ⟨rfl, rfl⟩
  | openString _ => simp [Reading.openString] at closed

theorem Munch.isBlank_of_mem {read rest : List Char} {r : Reading} (h : Munch read rest r)
    {c d : Char} (hc : r.token.kind.Absorbs c) (hd : d ∈ read) : isBlank d = false := by
  cases h with
  | lexeme ht _ => exact ht.isBlank_of_mem_lexeme hc hd
  | openString _ => cases hc

/-- Texts that do not run together are scanned one after the other. -/
theorem Scan.append {a b : List Char} {rs rs' : List Reading} (ha : Scan a rs) (hb : Scan b rs')
    (closed : ∀ r ∈ rs, .unterminatedString ∉ r.faults)
    (apart : ∀ c ∈ b.head?, ∀ r ∈ rs.getLast?, r.token.kind.Absorbs c →
      ∃ d ∈ a.getLast?, isBlank d = true) : Scan (a ++ b) (rs ++ rs') := by
  induction ha with
  | blank hg => exact hb.blank_append hg
  | @token gap read rest r rs hg hm hs ih =>
    obtain ⟨hr, hrs⟩ := List.forall_mem_cons.1 closed
    have hread := hm.ne_nil
    -- With nothing behind it, `r` is the last token of `a`, and `a` ends with a character of it.
    have hm' : Munch read (rest ++ b) r := by
      apply hm.append hr
      intro hrest c hc habs
      subst hrest
      obtain rfl := hs.eq_nil_of_isBlank (by simp)
      obtain ⟨d, hd, hblank⟩ := apart c hc r rfl habs
      have hmem : d ∈ read := by
        rw [List.append_nil, List.getLast?_append_of_ne_nil _ hread] at hd
        exact List.mem_of_getLast? hd
      simp [hm.isBlank_of_mem habs hmem] at hblank
    have hscan : Scan (rest ++ b) (rs ++ rs') := by
      apply ih hrs
      intro c hc r' hr' habs
      have hne : rs ≠ [] := by rintro rfl; cases hr'
      have hrest : rest ≠ [] := by
        rintro rfl
        exact hne (hs.eq_nil_of_isBlank (by simp))
      have hlast : r' ∈ (r :: rs).getLast? := by
        simp [List.getLast?_cons, Option.mem_def.1 hr']
      obtain ⟨d, hd, hblank⟩ := apart c hc r' hlast habs
      rw [← List.append_assoc, List.getLast?_append_of_ne_nil _ hrest] at hd
      exact ⟨d, hd, hblank⟩
    simpa using Scan.token hg hm' hscan

/-! ### The last token -/

/-- Of what stands behind a token only the first character counts, if there is one. -/
theorem Munch.of_head?_eq {read rest rest' : List Char} {r : Reading} (h : Munch read rest r)
    (hne : rest ≠ []) (hhead : rest'.head? = rest.head?) : Munch read rest' r := by
  cases h with
  | lexeme ht hb => exact .lexeme ht (hhead ▸ hb)
  | openString _ => exact absurd rfl hne

/-- The tokens before the last one stay as they are when anything else follows them that starts with
the same character. -/
theorem Scan.exists_last {a : List Char} {rs : List Reading} {r : Reading}
    (h : Scan a (rs ++ [r])) :
    ∃ front read gap, a = front ++ (read ++ gap) ∧ (∀ c ∈ gap, isBlank c = true) ∧
      Munch read gap r ∧
      ∀ cs rs', Scan cs rs' → cs.head? = read.head? → Scan (front ++ cs) (rs ++ rs') := by
  induction rs generalizing a with
  | nil =>
    cases h with
    | token hg hm hs =>
      cases hs with
      | blank hgap => exact ⟨_, _, _, rfl, hgap, hm, fun cs rs' hcs _ => hcs.blank_append hg⟩
  | cons q rs ih =>
    cases h with
    | @token gap' read' _ _ _ hg hq hs =>
      obtain ⟨front, read, gap, rfl, hgap, hm, hfront⟩ := ih hs
      refine ⟨gap' ++ (read' ++ front), read, gap, by simp, hgap, hm, fun cs rs' hcs hhead => ?_⟩
      have hread := hm.ne_nil
      have hq' : Munch read' (front ++ cs) q := by
        apply hq.of_head?_eq (by simp [hread])
        rw [List.head?_append, List.head?_append, hhead, List.head?_append_of_ne_nil _ hread]
      have hscan := Scan.token hg hq' (hfront cs rs' hcs hhead)
      simpa using hscan

end ScriptFront
