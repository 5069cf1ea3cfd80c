import ScriptFront.Proofs.Lexer.Append

/-!
# Quotes

The quotes of a text alone decide what is string and what is not: cut at its quotes, a text is
alternately read as tokens and taken over as a string (`tokensOf_eq_segments`). So the quotes count
the strings, and an odd number of them leaves the last string open.
-/

namespace ScriptFront

/-! ### Counting quotes -/

/-- The reading is one of a string. -/
def Reading.isString (r : Reading) : Bool :=
  r.token.kind == .string

theorem count_quote_of_isBlank {gap : List Char} (hg : ∀ c ∈ gap, isBlank c = true) :
    gap.count '"' = 0 :=
  List.count_eq_zero.2 fun hq => absurd (hg _ hq) (by decide)

/-- Every string takes up two quotes; if only the opening one is there, the string is the last
token. -/
theorem Scan.count_quote {cs : List Char} {rs : List Reading} (h : Scan cs rs) :
    (cs.count '"' = 2 * rs.countP (·.isString) ∧ ∀ r ∈ rs, .unterminatedString ∉ r.faults) ∨
      cs.count '"' + 1 = 2 * rs.countP (·.isString) ∧
        ∃ init text, rs = init ++ [.openString text] ∧
          ∀ r ∈ init, .unterminatedString ∉ r.faults := by
  induction h with
  | blank hg => exact Or.inl ⟨by simp [count_quote_of_isBlank hg], by simp⟩
  | @token gap read rest r rs hg hm hs ih =>
    have hgap := count_quote_of_isBlank hg
    cases hm with
    | @lexeme t _ ht _ =>
      have hcount : (gap ++ (t.lexeme.toList ++ rest)).count '"' =
          (if t.kind = .string then 2 else 0) + rest.count '"' := by
        simp [hgap, ht.count_quote_lexeme]
      have hstring : (Reading.ofLexeme t :: rs).countP (·.isString) =
          (if t.kind = .string then 1 else 0) + rs.countP (·.isString) := by
        simp [List.countP_cons, Reading.isString, Reading.ofLexeme, Nat.add_comm]
      have hclosed := Reading.unterminatedString_notMem_ofLexeme t
      rcases ih with ⟨hrest, hrs⟩ | ⟨hrest, init, text, rfl, hinit⟩
      · refine Or.inl ⟨?_, List.forall_mem_cons.2 ⟨hclosed, hrs⟩⟩
        split_ifs at hcount hstring <;> omega
      · refine Or.inr ⟨?_, .ofLexeme t :: init, text, rfl, List.forall_mem_cons.2 ⟨hclosed, hinit⟩⟩
        split_ifs at hcount hstring <;> omega
    | @openString text hq =>
      obtain rfl := hs.eq_nil_of_isBlank (by simp)
      refine Or.inr ⟨?_, [], text, rfl, by simp⟩
      simp [hgap, List.count_eq_zero.2 hq, Reading.isString, Reading.openString]

theorem Scan.closed_of_even {cs : List Char} {rs : List Reading} (h : Scan cs rs)
    (heven : cs.count '"' % 2 = 0) : ∀ r ∈ rs, .unterminatedString ∉ r.faults := by
  rcases h.count_quote with ⟨-, hclosed⟩ | ⟨hodd, -⟩
  · exact hclosed
  · omega

/-! ### Cutting at quotes -/

/-- The pieces of a text before, between and behind its quotes. -/
def segments (source : String) : List String :=
  (source.toList.splitOn '"').map .ofList

/-- The tokens of pieces of which every second one is a string. -/
def segmentTokens (segs : List String) : List Token :=
  (segs.mapIdx fun i seg => if i % 2 = 0 then tokensOf seg else [⟨.string, seg⟩]).flatten

theorem segmentTokens_singleton (code : String) : segmentTokens [code] = tokensOf code := by
  simp [segmentTokens]

theorem segmentTokens_cons_cons (code text : String) (segs : List String) :
    segmentTokens (code :: text :: segs) =
      tokensOf code ++ ⟨.string, text⟩ :: segmentTokens segs := by
  simp [segmentTokens, List.mapIdx_cons, Nat.add_assoc]

theorem length_segments (source : String) :
    (segments source).length = source.toList.count '"' + 1 := by
  rw [segments, List.length_map]
  induction source.toList with
  | nil => rfl
  | cons c cs ih =>
    rw [List.splitOn_cons_eq_if_modifyHead, List.count_cons]
    split_ifs <;> simp [ih]

/-- A text without quotes ends where a string begins. -/
theorem Scan.append_quote {code cs : List Char} {rs rs' : List Reading} (h : Scan code rs)
    (hq : '"' ∉ code) (hs : Scan ('"' :: cs) rs') : Scan (code ++ '"' :: cs) (rs ++ rs') := by
  apply h.append hs
  · exact h.closed_of_even (by rw [List.count_eq_zero.2 hq])
  · intro c hc r _ habs
    obtain rfl : '"' = c := by simpa using hc
    exact absurd habs Kind.not_absorbs_quote

/-- The recursion takes two pieces at a time, one of tokens and the string behind it. -/
theorem exists_scan_segments (cs : List Char) :
    ∃ rs, Scan cs rs ∧ rs.map (·.token) = segmentTokens ((cs.splitOn '"').map .ofList) := by
  by_cases hcs : '"' ∈ cs
  · obtain ⟨code, tail, rfl, hcode⟩ := List.eq_append_cons_of_mem hcs
    obtain ⟨rs, hs⟩ := exists_scan code
    have htokens := hs.tokensOf_eq
    rw [List.splitOn_append_cons_self_of_not_mem hcode]
    by_cases htail : '"' ∈ tail
    · obtain ⟨text, rest, rfl, htext⟩ := List.eq_append_cons_of_mem htail
      obtain ⟨rs', hs', hrs'⟩ := exists_scan_segments rest
      have hstring := Scan.token (List.forall_mem_nil _) (.string htext rest) hs'
      refine ⟨rs ++ _, hs.append_quote hcode (by simpa using hstring), ?_⟩
      rw [List.splitOn_append_cons_self_of_not_mem htext]
      simp [segmentTokens_cons_cons, htokens, hrs', Reading.ofLexeme]
    · have hstring := Scan.token (List.forall_mem_nil _) (.openString htail) (.blank (by simp))
      refine ⟨rs ++ _, hs.append_quote hcode (by simpa using hstring), ?_⟩
      rw [List.splitOn_eq_singleton htail]
      simp [segmentTokens, htokens, Reading.openString]
  · obtain ⟨rs, hs⟩ := exists_scan cs
    refine ⟨rs, hs, ?_⟩
    rw [List.splitOn_eq_singleton hcs, List.map_singleton, segmentTokens_singleton]
    exact hs.tokensOf_eq.symm
termination_by cs.length
decreasing_by
  subst_vars
  simp only [List.length_append, List.length_cons]
  omega

/-! ### The whole text -/

theorem unterminatedString_notMem_events {rs : List Reading}
    (h : ∀ r ∈ rs, .unterminatedString ∉ r.faults) :
    .unterminatedString ∉ rs.flatMap (·.events) := by
  simpa [List.mem_flatMap, Reading.events] using h

/-- The pieces of a text between its quotes are read one by one, every second one as a string. With
`q` quotes there are `q + 1` pieces, and half of `q`, rounded up, are strings; if `q` is odd, and
only then, the end of the text is reached in a string, and that string is the last token. -/
theorem tokensOf_eq_segments (source : String) :
    (segments source).length = source.toList.count '"' + 1 ∧
      tokensOf source = ((segments source).mapIdx fun i seg =>
        if i % 2 = 0 then tokensOf seg else [⟨.string, seg⟩]).flatten ∧
      (tokensOf source).countP (·.kind == .string) = (source.toList.count '"' + 1) / 2 ∧
      (.unterminatedString ∈ (Lexer.ofString source).collect.events ↔
        source.toList.count '"' % 2 = 1) ∧
      ((∃ before text, .unterminatedString ∉ before ∧
          (Lexer.ofString source).collect.events =
            before ++ [.unterminatedString, .scanned ⟨.string, text⟩]) ↔
        source.toList.count '"' % 2 = 1) := by
  obtain ⟨rs, hs, hrs⟩ := exists_scan_segments source.toList
  obtain ⟨htokens, hevents⟩ := collect_ofString hs
  have hcount : (tokensOf source).countP (·.kind == .string) = rs.countP (·.isString) := by
    rw [htokens, List.countP_map]
    rfl
  refine ⟨length_segments source, htokens.trans hrs, ?_⟩
  rw [hcount, hevents]
  rcases hs.count_quote with ⟨heven, hclosed⟩ | ⟨hodd, init, text, rfl, hclosed⟩
  · have hnone : .unterminatedString ∉ rs.flatMap (·.events) :=
      unterminatedString_notMem_events hclosed
    refine ⟨by omega, iff_of_false hnone (by omega), iff_of_false ?_ (by omega)⟩
    rintro ⟨before, text, -, hevents⟩
    exact hnone (by simp [hevents])
  · have hinit : .unterminatedString ∉ init.flatMap (·.events) :=
      unterminatedString_notMem_events hclosed
    have hlast : (init ++ [Reading.openString text]).flatMap (·.events) =
        init.flatMap (·.events) ++ [.unterminatedString, .scanned ⟨.string, .ofList text⟩] := by
      simp [Reading.events, Reading.openString]
    rw [hlast]
    refine ⟨by omega, iff_of_true (by simp) (by omega), iff_of_true ?_ (by omega)⟩
    exact ⟨init.flatMap (·.events), .ofList text, hinit, rfl⟩

end ScriptFront
