import ScriptFront.Proofs.Lexer.Quotes

/-!
# Text behind a text

More text behind a text can change the last token of it only, and only by growth
(`Token.GrowsTo`): a token goes on with the characters that it absorbs (`exists_absorption`), and a
string without closing quote with all that comes before the next quote (`exists_grown_openString`).
A blank behind the last token, outside of strings, keeps it as it is (`tokensOf_append_last`).
-/

namespace ScriptFront

/-- Growth of the kind: any word may become any other word, `=` may become `==`, and `!` may become
`!=`; all else stays. -/
def Token.KindGrowsTo (t u : Token) : Prop :=
  u.kind = t.kind ∨ (t.isWord = true ∧ u.isWord = true) ∨
    (t.kind = .symbol .assign ∧ u.kind = .symbol .equal) ∨
    (t.kind = .symbol .bang ∧ u.kind = .symbol .notEqual)

/-- The token `u` is one that more text behind it may make of `t`. -/
structure Token.GrowsTo (t u : Token) : Prop where
  literal_le : t.literal.toList <+: u.literal.toList
  kind_growsTo : t.KindGrowsTo u

theorem Token.GrowsTo.refl (t : Token) : t.GrowsTo t :=
  ⟨List.prefix_rfl, Or.inl rfl⟩

theorem Token.GrowsTo.of_literal_eq {t u : Token} {cs : List Char}
    (hl : u.literal = t.literal ++ .ofList cs) (hk : t.KindGrowsTo u) : t.GrowsTo u where
  literal_le := ⟨cs, by rw [hl, String.toList_append, String.toList_ofList]⟩
  kind_growsTo := hk

/-! ### Absorbing characters -/

/-- With the characters `c :: more` behind it, the token `t` is read as `u`, which takes in `c` and
the characters `run` and leaves `rest`. -/
structure Absorption (t : Token) (c : Char) (more : List Char) (u : Token) (run rest : List Char) :
    Prop where
  split : more = run ++ rest
  literal_eq : u.literal = t.literal ++ .ofList (c :: run)
  kind_growsTo : t.KindGrowsTo u
  munch : Munch (t.lexeme.toList ++ c :: run) rest (.ofLexeme u)
  /-- Without `t`, the characters that it takes in are a token by themselves; only for `=` this
  depends on what follows. -/
  alone : (∃ r, Munch (c :: run) rest r) ∨ c = '=' ∧ run = []

variable {t : Token} {c : Char}

theorem exists_absorption_word (ht : t.WellFormed) (hw : t.isWord = true)
    (hc : isLetter c = true) (more : List Char) : ∃ u run rest, Absorption t c more u run rest := by
  obtain ⟨run, rest, rfl, hrun, hrest⟩ := exists_run isLetter more
  have hletters : ∀ d ∈ c :: run, isLetter d = true := List.forall_mem_cons.2 ⟨hc, hrun⟩
  have hword : ∀ d ∈ t.literal.toList ++ c :: run, isLetter d = true :=
    List.forall_mem_append.2 ⟨(ht.isLetter hw).2, hletters⟩
  refine ⟨.ofWord (.ofList (t.literal.toList ++ c :: run)), run, rest, rfl, ?_, ?_, ?_, Or.inl ?_⟩
  · rw [Token.ofWord, String.ofList_append, String.ofList_toList]
  · exact Or.inr (Or.inl ⟨hw, Token.isWord_ofWord _⟩)
  · rw [Token.lexeme_of_isWord hw]
    exact .word (by simp) hword hrest
  · exact ⟨_, .word (List.cons_ne_nil c run) hletters hrest⟩

theorem exists_absorption_integer {digits : String} (ht : (Token.mk .integer digits).WellFormed)
    (hc : isDigit c = true) (more : List Char) :
    ∃ u run rest, Absorption ⟨.integer, digits⟩ c more u run rest := by
  obtain ⟨run, rest, rfl, hrun, hrest⟩ := exists_run isDigit more
  have hdigits : ∀ d ∈ c :: run, isDigit d = true := List.forall_mem_cons.2 ⟨hc, hrun⟩
  have hall : ∀ d ∈ digits.toList ++ c :: run, isDigit d = true :=
    List.forall_mem_append.2 ⟨ht.2, hdigits⟩
  refine ⟨⟨.integer, .ofList (digits.toList ++ c :: run)⟩, run, rest, rfl, ?_, Or.inl rfl, ?_,
    Or.inl ?_⟩
  · rw [String.ofList_append, String.ofList_toList]
  · exact .integer (by simp) hall hrest
  · exact ⟨_, .integer (List.cons_ne_nil c run) hdigits hrest⟩

theorem absorption_symbol {s wide : Symbol} (hw : s.withEquals? = some wide) (more : List Char) :
    Absorption (.ofSymbol s) '=' more (.ofSymbol wide) [] more := by
  have hl : (Token.ofSymbol wide).literal = (Token.ofSymbol s).literal ++ .ofList ['='] :=
    Symbol.spelling_withEquals hw
  refine ⟨rfl, hl, ?_, ?_, Or.inr ⟨rfl, rfl⟩⟩
  · cases s <;> cases hw
    · exact Or.inr (Or.inr (Or.inl ⟨rfl, rfl⟩))
    · exact Or.inr (Or.inr (Or.inr ⟨rfl, rfl⟩))
  · cases s <;> cases hw
    · exact Munch.symbolEquals (c := '=') rfl rfl more
    · exact Munch.symbolEquals (c := '!') rfl rfl more

theorem exists_absorption (ht : t.WellFormed) (hc : t.kind.Absorbs c) (more : List Char) :
    ∃ u run rest, Absorption t c more u run rest := by
  have word (hw : t.isWord = true) : ∃ u run rest, Absorption t c more u run rest :=
    exists_absorption_word ht hw ((Token.absorbs_iff_of_isWord hw).1 hc) more
  rcases t with ⟨k, literal⟩
  cases k with
  | illegal => cases hc
  | endOfInput => cases hc
  | identifier => exact word rfl
  | integer => exact exists_absorption_integer ht hc more
  | string => cases hc
  | symbol s =>
    obtain rfl : literal = s.spelling := ht
    obtain ⟨hsome, rfl⟩ := hc
    obtain ⟨wide, hw⟩ := Option.isSome_iff_exists.1 hsome
    exact ⟨_, _, _, absorption_symbol hw more⟩
  | keyword _ => exact word rfl

/-! ### The last token of a text -/

/-- Behind an open string all text belongs to the string, up to the next quote. -/
theorem exists_grown_openString {text : List Char} (hq : '"' ∉ text) (more : List Char) :
    ∃ read rest r, '"' :: text ++ more = read ++ rest ∧ Munch read rest r ∧
      (Reading.openString text).token.GrowsTo r.token := by
  by_cases hmore : '"' ∈ more
  · obtain ⟨piece, rest, rfl, hpiece⟩ := List.eq_append_cons_of_mem hmore
    have hnot : '"' ∉ text ++ piece := by simp [hq, hpiece]
    refine ⟨_, rest, _, by simp, .string hnot rest, ?_⟩
    exact .of_literal_eq String.ofList_append (Or.inl rfl)
  · have hnot : '"' ∉ text ++ more := by simp [hq, hmore]
    refine ⟨_, [], _, by simp, .openString hnot, ?_⟩
    exact .of_literal_eq String.ofList_append (Or.inl rfl)

/-- With more text behind it, a last token is read as one that it grows to. -/
theorem Munch.exists_grown {read gap : List Char} {r : Reading} (h : Munch read gap r)
    (more : List Char) :
    ∃ read' rest r', read ++ (gap ++ more) = read' ++ rest ∧ Munch read' rest r' ∧
      r.token.GrowsTo r'.token := by
  cases h with
  | @lexeme t _ ht hb =>
    by_cases habs : ∃ c ∈ (gap ++ more).head?, t.kind.Absorbs c
    · obtain ⟨c, hhead, hc⟩ := habs
      -- What stands in the gap is not absorbed, so there is no gap.
      obtain rfl : gap = [] := by
        cases gap with
        | nil => rfl
        | cons d gap => exact absurd hc (hb c hhead)
      obtain ⟨tail, rfl⟩ := List.head?_eq_some_iff.1 hhead
      obtain ⟨u, run, rest, h⟩ := exists_absorption ht hc tail
      refine ⟨_, rest, _, by simp [h.split], h.munch, ?_⟩
      exact .of_literal_eq h.literal_eq h.kind_growsTo
    · exact ⟨_, gap ++ more, _, rfl, .lexeme ht fun c hc h => habs ⟨c, hc, h⟩, .refl t⟩
  | openString hq => exact exists_grown_openString hq more

/-- The tokens of the text `a` are `init` and the last token, which is read from the characters `read`
at the end of the text, but for the blanks in `gap` behind them. -/
structure Ending (a : String) (init : List Token) (r : Reading) (read gap : List Char) : Prop where
  munch : Munch read gap r
  blank : ∀ c ∈ gap, isBlank c = true
  isSuffix : read ++ gap <:+ a.toList
  closed : a.toList.count '"' % 2 = 0 → .unterminatedString ∉ r.faults
  /-- Whatever the last token is read as with more text behind it, the tokens before it stay. -/
  tokensOf_append : ∀ (b : String) (read' rest : List Char) (r' : Reading),
    read ++ (gap ++ b.toList) = read' ++ rest → Munch read' rest r' →
    tokensOf (a ++ b) = init ++ [r'.token] ++ tokensOf (.ofList rest)

theorem exists_ending {a : String} {init : List Token} {t : Token} (h : tokensOf a = init ++ [t]) :
    ∃ r read gap, r.token = t ∧ Ending a init r read gap := by
  obtain ⟨all, hs⟩ := exists_scan a.toList
  have hall : all.map (·.token) = init ++ [t] := (collect_ofString hs).1.symm.trans h
  obtain ⟨rs, last, rfl, hinit, hlast⟩ := List.map_eq_append_iff.1 hall
  obtain ⟨r, rfl, ht⟩ := List.map_eq_singleton_iff.1 hlast
  obtain ⟨front, read, gap, ha, hgap, hm, hfront⟩ := hs.exists_last
  have hclosed (heven : a.toList.count '"' % 2 = 0) : .unterminatedString ∉ r.faults :=
    hs.closed_of_even heven r (by simp)
  refine ⟨r, read, gap, ht, hm, hgap, ⟨front, ha.symm⟩, hclosed, ?_⟩
  intro b read' rest r' hsplit hm'
  obtain ⟨rs', hs'⟩ := exists_scan rest
  have hscan : Scan (read' ++ rest) (r' :: rs') := .token (List.forall_mem_nil _) hm' hs'
  have hhead : (read' ++ rest).head? = read.head? := by
    obtain ⟨c, tail, rfl, -⟩ := hm.exists_head
    rw [← hsplit, List.cons_append, List.head?_cons, List.head?_cons]
  have hab : a ++ b = .ofList (front ++ (read' ++ rest)) := by
    rw [← hsplit, ← String.toList_inj, String.toList_append, String.toList_ofList, ha]
    simp only [List.append_assoc]
  rw [hab, (hfront _ _ hscan hhead).tokensOf_eq, hs'.tokensOf_eq, ← hinit]
  simp

/-- Without a gap, the last character of a text belongs to the last token. -/
theorem Ending.getLast?_eq {a : String} {init : List Token} {r : Reading} {read : List Char}
    (h : Ending a init r read []) : a.toList.getLast? = read.getLast? := by
  obtain ⟨front, ha⟩ := h.isSuffix
  rw [← ha, List.append_nil, List.getLast?_append_of_ne_nil _ h.munch.ne_nil]

/-- The text ends in a blank, and the blank is not part of a string: the quotes before it make
pairs. -/
def EndsInBlank (a : String) : Prop :=
  a.toList.count '"' % 2 = 0 ∧ ∃ c ∈ a.toList.getLast?, isBlank c = true

/-- Text behind a text leaves all tokens but the last one as they are, and the last one grows at
most. If a blank outside of strings ends the text, the last one stays too. -/
theorem tokensOf_append_last (a b : String) (init : List Token) (t : Token)
    (h : tokensOf a = init ++ [t]) :
    ∃ t' r, tokensOf (a ++ b) = init ++ [t'] ++ r ∧ t.GrowsTo t' ∧ (EndsInBlank a → t' = t) := by
  obtain ⟨r, read, gap, rfl, hending⟩ := exists_ending h
  by_cases hend : EndsInBlank a
  · obtain ⟨heven, d, hd, hblank⟩ := hend
    have happend : Munch read (gap ++ b.toList) r := by
      apply hending.munch.append (hending.closed heven)
      -- Without a gap the blank is in the token, which then absorbs nothing.
      rintro rfl c _ habs
      rw [hending.getLast?_eq] at hd
      simp [hending.munch.isBlank_of_mem habs (List.mem_of_getLast? hd)] at hblank
    have htokens := hending.tokensOf_append b read _ r rfl happend
    exact ⟨r.token, _, htokens, .refl _, fun _ => rfl⟩
  · obtain ⟨read', rest, r', hsplit, hm', hgrows⟩ := hending.munch.exists_grown b.toList
    have htokens := hending.tokensOf_append b read' rest r' hsplit hm'
    exact ⟨r'.token, _, htokens, hgrows, fun h => absurd h hend⟩

theorem tokensOf_append_last_keyword :
    tokensOf "\"é\" let\n" = [⟨.string, "é"⟩] ++ [.ofWord "let"] ∧ EndsInBlank "\"é\" let\n" ∧
      ∃ r, tokensOf ("\"é\" let\n" ++ "s =") = [⟨.string, "é"⟩] ++ [.ofWord "let"] ++ r := by
  have h : tokensOf "\"é\" let\n" = [⟨.string, "é"⟩] ++ [.ofWord "let"] := by decide +kernel
  have hend : EndsInBlank "\"é\" let\n" := ⟨by decide +kernel, '\n', by decide +kernel, by decide⟩
  obtain ⟨t', r, htokens, -, hstays⟩ := tokensOf_append_last "\"é\" let\n" "s =" _ _ h
  rw [hstays hend] at htokens
  exact ⟨h, hend, r, htokens⟩

-- A blank in an open string does not end the string.
example : tokensOf ("x \"a " ++ "b\"-") = [.ofWord "x", ⟨.string, "a b"⟩, .ofSymbol .minus] := by
  decide +kernel

end ScriptFront
