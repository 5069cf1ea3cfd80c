import ScriptFront.Expr.Form
import ScriptFront.Proofs.Expr.Chain
import ScriptFront.Proofs.Lexer.Append
import ScriptFront.Proofs.Lexer.RoundTrip

/-!
# Writing expressions and reading them back

A chain that is complete gives a well-formed expression, and the tokens that it has read are those
of the expression (`Expr.wellFormed_of_readChain`); from its own tokens a well-formed expression is
read back (`Expr.readChain_of_wellFormed`). No two of these tokens clash, so they may be written
with any blanks between them, and what follows is not touched if it starts with neither letter nor
digit (`Expr.readChain_text`).
-/

namespace ScriptFront

/-! ### Tokens that never clash -/

namespace Token

/-- Whether the token is a symbol that never clashes with a neighbour before it, and with one behind
it only if that one is `=` or `==`. -/
def IsMark (t : Token) : Prop :=
  ∃ s : Symbol, t = .ofSymbol s ∧ s ≠ .assign ∧ s ≠ .equal

variable {t u x : Token}

theorem IsMark.wellFormed (h : t.IsMark) : t.WellFormed := by
  obtain ⟨s, rfl, -, -⟩ := h
  exact rfl

theorem IsMark.not_clash_left (hu : u.IsMark) : ¬ t.Clash u := by
  obtain ⟨s, rfl, ha, he⟩ := hu
  simp [Clash, ofSymbol, isWord, Kind.isKeyword, ha, he]

theorem IsMark.not_clash_right (ht : t.IsMark)
    (hx : x.kind ≠ .symbol .assign ∧ x.kind ≠ .symbol .equal) : ¬ t.Clash x := by
  obtain ⟨s, rfl, -, -⟩ := ht
  simp [Clash, ofSymbol, isWord, Kind.isKeyword, hx]

/-- One token of any other kind than `=` and `==` among marks clashes with none of them. -/
theorem pairwise_not_clash {before after : List Token} (hbefore : ∀ t ∈ before, t.IsMark)
    (hafter : ∀ t ∈ after, t.IsMark) (hx : x.kind ≠ .symbol .assign ∧ x.kind ≠ .symbol .equal) :
    (before ++ [x] ++ after).Pairwise fun t u => ¬ t.Clash u := by
  have marks {ts : List Token} (hts : ∀ t ∈ ts, t.IsMark) :
      ts.Pairwise fun t u => ¬ t.Clash u :=
    List.pairwise_of_forall_mem_list fun t _ u hu => (hts u hu).not_clash_left
  refine List.pairwise_append.2 ⟨List.pairwise_append.2 ⟨marks hbefore, ?_, ?_⟩, marks hafter, ?_⟩
  · exact List.pairwise_singleton _ x
  · intro t ht u hu
    obtain rfl := List.mem_singleton.1 hu
    exact (hbefore t ht).not_clash_right hx
  · intro t _ u hu
    exact (hafter u hu).not_clash_left

theorem WellFormed.eq_of_isPrefixOp (ht : t.WellFormed) (h : t.isPrefixOp = true) :
    t = .ofSymbol .minus ∨ t = .ofSymbol .bang := by
  have hk : t.kind = .symbol .minus ∨ t.kind = .symbol .bang := by
    simpa [isPrefixOp] using h
  rcases t with ⟨k, literal⟩
  rcases hk with rfl | rfl
  · exact .inl (congrArg (Token.mk _) ht)
  · exact .inr (congrArg (Token.mk _) ht)

end Token

/-- A layout of one token among marks is scanned token by token, whatever its gaps are. -/
theorem Layout.scan_text_marks {lead : String} {l : Layout} {before after : List Token} {x : Token}
    (htokens : l.tokens = before ++ [x] ++ after) (hbefore : ∀ t ∈ before, t.IsMark)
    (hafter : ∀ t ∈ after, t.IsMark) (hx : x.WellFormed)
    (hkind : x.kind ≠ .symbol .assign ∧ x.kind ≠ .symbol .equal) (hlead : IsGap lead)
    (hgaps : ∀ p ∈ l, IsGap p.2) : Scan (lead ++ l.text).toList (l.tokens.map .ofLexeme) := by
  have hwf : ∀ t ∈ l.tokens, t.WellFormed := by
    rw [htokens]
    refine List.forall_mem_append.2 ⟨List.forall_mem_append.2 ⟨?_, ?_⟩, ?_⟩
    · exact fun t ht => (hbefore t ht).wellFormed
    · exact List.forall_mem_singleton.2 hx
    · exact fun t ht => (hafter t ht).wellFormed
  have hl : l.WellFormed := fun p hp => ⟨hwf p.1 (List.mem_map_of_mem hp), hgaps p hp⟩
  have hsep : l.Separated := by
    apply separated_of_pairwise
    rw [htokens]
    exact Token.pairwise_not_clash hbefore hafter hkind
  exact scan_text hl hsep hlead

theorem PrefixOp.WellFormed.isPrefixOp {op : PrefixOp} (h : op.WellFormed) :
    op.token.isPrefixOp = true := by
  rcases h.1 with ht | ht <;> rw [ht] <;> rfl

theorem PrefixOp.WellFormed.isMark {op : PrefixOp} (h : op.WellFormed) : op.token.IsMark := by
  rcases h.1 with ht | ht
  · exact ⟨.minus, ht, nofun, nofun⟩
  · exact ⟨.bang, ht, nofun, nofun⟩

theorem PrefixOp.WellFormed.ofToken {op : PrefixOp} (h : op.WellFormed) :
    PrefixOp.ofToken op.token = .ok op := by
  rw [(Expr.ofToken_of_isPrefixOp h.isPrefixOp).2, ← h.2]

namespace Expr

variable {e : Expr} {lx : Lexer}

/-! ### Leaves -/

theorem IsLeaf.wellFormed_token (h : e.IsLeaf) : e.token.WellFormed := by
  cases e with
  | identifier _ _ => exact h.1
  | integer _ _ => exact h.1
  | string _ _ => exact h.1
  | pending _ => cases h
  | applied _ _ => cases h

theorem IsLeaf.kind_token (h : e.IsLeaf) :
    e.token.kind = .identifier ∨ e.token.kind = .integer ∨ e.token.kind = .string := by
  cases e with
  | identifier _ _ => exact .inl h.2.1
  | integer _ _ => exact .inr (.inl h.2.1)
  | string _ _ => exact .inr (.inr h.2.1)
  | pending _ => cases h
  | applied _ _ => cases h

theorem IsLeaf.kind_token_ne (h : e.IsLeaf) :
    e.token.kind ≠ .symbol .assign ∧ e.token.kind ≠ .symbol .equal := by
  rcases h.kind_token with hk | hk | hk <;> rw [hk] <;> exact ⟨nofun, nofun⟩

theorem IsLeaf.not_absorbs (h : e.IsLeaf) {c : Char}
    (hc : isLetter c = false ∧ isDigit c = false) : ¬ e.token.kind.Absorbs c := by
  rcases h.kind_token with hk | hk | hk <;> simp [Kind.Absorbs, hk, hc]

theorem IsLeaf.isPrefixOp_token (h : e.IsLeaf) : e.token.isPrefixOp = false := by
  rcases h.kind_token with hk | hk | hk <;> simp [Token.isPrefixOp, hk]

theorem le_maxValue_iff {n : Nat} : n ≤ Int64.maxValue.toInt ↔ n ≤ 2 ^ 63 - 1 := by
  have hmax : Int64.maxValue.toInt = 2 ^ 63 - 1 := rfl
  omega

theorem IsLeaf.ofOperand_token (h : e.IsLeaf) : ofOperand e.token = .ok e := by
  cases e with
  | identifier t name =>
    obtain ⟨-, hk, rfl⟩ := h
    simp [ofOperand, token, hk]
  | integer t value =>
    obtain ⟨-, hk, hle, rfl⟩ := h
    rw [Decimal.value_eq_positional] at hle ⊢
    simp only [ofOperand, token, hk]
    exact if_pos (le_maxValue_iff.1 hle)
  | string t text =>
    obtain ⟨-, hk, rfl⟩ := h
    simp [ofOperand, token, hk]
  | pending _ => cases h
  | applied _ _ => cases h

theorem IsLeaf.leaf?_token (h : e.IsLeaf) : leaf? e.token = some (.ok e) := by
  have hread := leaf?_getD (.inl h.wellFormed_token)
  rw [h.ofOperand_token] at hread
  cases hleaf : leaf? e.token with
  | none => simp [hleaf] at hread
  | some r => rw [hleaf, Option.getD_some] at hread; rw [hread]

theorem isLeaf_of_ofOperand {x : Token} (hx : x.WellFormed) (h : ofOperand x = .ok e) :
    e.IsLeaf ∧ e.token = x := by
  rcases x with ⟨k, literal⟩
  cases k with
  | identifier => cases h; exact ⟨⟨hx, rfl, rfl⟩, rfl⟩
  | string => cases h; exact ⟨⟨hx, rfl, rfl⟩, rfl⟩
  | integer =>
    simp only [ofOperand, ← Decimal.value_eq_positional] at h
    split_ifs at h with hle
    cases h
    exact ⟨⟨hx, rfl, le_maxValue_iff.2 hle, rfl⟩, rfl⟩
  | _ => cases h

theorem IsLeaf.operators_eq (h : e.IsLeaf) : e.operators = [] ∧ e.innermost = e := by
  cases e with
  | applied _ _ => cases h
  | _ => exact ⟨rfl, rfl⟩

theorem IsLeaf.tokens_eq (h : e.IsLeaf) : e.tokens = [e.token] := by
  rw [tokens, h.operators_eq.1, h.operators_eq.2, List.map_nil, List.nil_append]

theorem IsLeaf.wellFormed (h : e.IsLeaf) : e.WellFormed := by
  rw [WellFormed, h.operators_eq.1, h.operators_eq.2]
  exact ⟨List.forall_mem_nil _, h⟩

/-! ### From tokens to expressions and back -/

theorem WellFormed.isPrefixOp_of_mem (he : e.WellFormed) :
    ∀ t ∈ e.operators.map (·.token), t.isPrefixOp = true := by
  intro t ht
  obtain ⟨op, hop, rfl⟩ := List.mem_map.1 ht
  exact (he.1 op hop).isPrefixOp

theorem WellFormed.leadingOps_tokens (he : e.WellFormed) (ts : List Token) :
    Token.leadingOps (e.tokens ++ ts) = e.operators.map (·.token) := by
  rw [tokens, List.append_assoc, Token.leadingOps,
    List.takeWhile_append_of_pos he.isPrefixOp_of_mem, List.singleton_append,
    List.takeWhile_cons_of_neg (by simp [he.2.isPrefixOp_token]), List.append_nil]

theorem WellFormed.afterOps_tokens (he : e.WellFormed) (ts : List Token) :
    Token.afterOps (e.tokens ++ ts) = e.innermost.token := by
  rw [tokens, List.append_assoc, Token.afterOps,
    List.dropWhile_append_of_pos he.isPrefixOp_of_mem, List.singleton_append,
    List.dropWhile_cons_of_neg (by simp [he.2.isPrefixOp_token]), List.headD_cons]

theorem under_operators (h : ∀ op ∈ e.operators, op.WellFormed) :
    under (e.operators.map (·.token)) e.innermost = e := by
  induction e with
  | applied op operand ih =>
    obtain ⟨hop, hoperand⟩ := List.forall_mem_cons.1 h
    have hnode : (⟨op.token, op.token.literal⟩ : PrefixOp) = op := by rw [← hop.2]
    show applied ⟨op.token, op.token.literal⟩ (under _ operand.innermost) = _
    rw [ih hoperand, hnode]
  | _ => rfl

theorem map_token_ofLexeme (ts : List Token) :
    (ts.map Reading.ofLexeme).map Reading.token = ts := by
  rw [List.map_map]
  exact List.map_id ts

/-- The tokens of a well-formed expression are all that it is made of. -/
theorem WellFormed.ofOperand_map_under (he : e.WellFormed) (ts : List Token) :
    (ofOperand (Token.afterOps (e.tokens ++ ts))).map (under (Token.leadingOps (e.tokens ++ ts))) =
      .ok e := by
  rw [he.leadingOps_tokens, he.afterOps_tokens, he.2.ofOperand_token, Except.map,
    under_operators he.1]

theorem WellFormed.eq_of_tokens_eq {e' : Expr} (he : e.WellFormed) (he' : e'.WellFormed)
    (h : e'.tokens = e.tokens) : e' = e := by
  have hok := he'.ofOperand_map_under []
  rw [h, he.ofOperand_map_under] at hok
  exact (Except.ok.inj hok).symm

/-- A well-formed expression is read back from its tokens, and nothing behind them is read. -/
theorem readChain_of_wellFormed (he : e.WellFormed) {rest : List Reading}
    (h : lx.Yields (e.tokens.map .ofLexeme ++ rest)) :
    (readChain lx).value = .ok e ∧ (readChain lx).lexer.Yields rest := by
  obtain ⟨hvalue, -, hyields⟩ := readChain_of_yields h
  have htokens : (e.tokens.map Reading.ofLexeme ++ rest).map Reading.token =
      e.tokens ++ rest.map Reading.token := by
    rw [List.map_append, map_token_ofLexeme]
  rw [htokens] at hvalue hyields
  rw [he.leadingOps_tokens] at hyields
  constructor
  · rw [hvalue, he.ofOperand_map_under]
  · have hlength : (e.operators.map (·.token)).length + 1 =
        (e.tokens.map Reading.ofLexeme).length := by
      simp [tokens]
    rwa [hlength, List.drop_left] at hyields

/-- What a complete chain has read are the tokens of its expression. -/
theorem wellFormed_of_readChain {rs : List Reading} (h : lx.Yields rs)
    (hvalue : (readChain lx).value = .ok e) :
    e.WellFormed ∧ ∃ rest : List Reading,
      rs.map (·.token) = e.tokens ++ rest.map (·.token) ∧ (readChain lx).lexer.Yields rest := by
  induction rs generalizing lx e with
  | nil =>
    obtain ⟨next, -, hn⟩ := h.nextToken_nil
    have hoperand := (readChain_of_operand lx (by simp [hn]) (by rw [hn]; rfl)).1
    rw [hoperand, hn] at hvalue
    cases hvalue
  | cons r rs ih =>
    obtain ⟨next, hnext, hn⟩ := h.nextToken_cons
    have hafter : lx.afterToken = next := by rw [Lexer.afterToken, hn]
    have hwf : r.token.WellFormed := h.wellFormed r List.mem_cons_self
    cases hop : r.token.isPrefixOp with
    | true =>
      obtain ⟨hchain, hlexer⟩ := readChain_of_isPrefixOp lx (by rw [hn, hop])
      rw [hafter, hn, hvalue] at hchain
      rw [hafter] at hlexer
      cases hrest : (readChain next).value with
      | error err => rw [hrest] at hchain; cases hchain
      | ok operand =>
        rw [hrest] at hchain
        obtain rfl : e = applied ⟨r.token, r.token.literal⟩ operand := Except.ok.inj hchain
        obtain ⟨hoperand, rest, htokens, hyields⟩ := ih hnext hrest
        have hmark : PrefixOp.WellFormed ⟨r.token, r.token.literal⟩ :=
          ⟨hwf.eq_of_isPrefixOp hop, rfl⟩
        refine ⟨wellFormed_applied_iff.2 ⟨hmark, hoperand⟩, rest, ?_, by rwa [hlexer]⟩
        rw [List.map_cons, htokens]
        rfl
    | false =>
      obtain ⟨hoperand, hlexer⟩ :=
        readChain_of_operand lx (by rw [hn]; exact .inl hwf) (by rw [hn, hop])
      rw [hn, hvalue] at hoperand
      obtain ⟨hleaf, htoken⟩ := isLeaf_of_ofOperand hwf hoperand.symm
      refine ⟨hleaf.wellFormed, rs, ?_, by rwa [hlexer, hafter]⟩
      rw [hleaf.tokens_eq, htoken]
      rfl

/-! ### Written without parentheses -/

theorem WellFormed.isMark_of_mem (he : e.WellFormed) :
    ∀ t ∈ e.operators.map (·.token), t.IsMark := by
  intro t ht
  obtain ⟨op, hop, rfl⟩ := List.mem_map.1 ht
  exact (he.1 op hop).isMark

/-- The tokens of the expression, written with any blanks between them, are scanned one by one. -/
theorem WellFormed.scan_text (he : e.WellFormed) {lead : String} {l : Layout}
    (htokens : l.tokens = e.tokens) (hlead : Layout.IsGap lead)
    (hgaps : ∀ p ∈ l, Layout.IsGap p.2) :
    Scan (lead ++ l.text).toList (e.tokens.map .ofLexeme) := by
  rw [← htokens]
  apply Layout.scan_text_marks _ he.isMark_of_mem (List.forall_mem_nil _) he.2.wellFormed_token
    he.2.kind_token_ne hlead hgaps
  rw [htokens, tokens, List.append_nil]

/-- Written with any blanks in front of its tokens, a well-formed expression is read back, and every
node of it is what its token is read as. Whatever follows is left as it is, unless it starts with a
letter or a digit. -/
theorem readChain_text (e : Expr) (he : e.WellFormed) (lead : String) (l : Layout) (r : String)
    (htokens : l.tokens = e.tokens) (hlead : Layout.IsGap lead)
    (hgaps : ∀ p ∈ l, Layout.IsGap p.2)
    (hr : ∀ c ∈ r.toList.head?, isLetter c = false ∧ isDigit c = false) :
    (readChain (.ofString (lead ++ l.text ++ r))).value = .ok e ∧
      (readChain (.ofString (lead ++ l.text ++ r))).lexer.tokenize.value =
        (Lexer.ofString r).tokenize.value ∧
      (∀ op ∈ e.operators, PrefixOp.ofToken op.token = .ok op) ∧
      leaf? e.innermost.token = some (.ok e.innermost) := by
  obtain ⟨rs, hs⟩ := exists_scan r.toList
  have hscan : Scan (lead ++ l.text ++ r).toList (e.tokens.map .ofLexeme ++ rs) := by
    rw [String.toList_append]
    apply (he.scan_text htokens hlead hgaps).append hs
    · intro q hq
      obtain ⟨t, -, rfl⟩ := List.mem_map.1 hq
      exact Reading.unterminatedString_notMem_ofLexeme t
    · intro c hc q hq habs
      rw [tokens, List.map_append, List.map_singleton, List.getLast?_concat] at hq
      obtain rfl := Option.some.inj hq
      exact absurd habs (he.2.not_absorbs (hr c hc))
  obtain ⟨hvalue, hyields⟩ := readChain_of_wellFormed he (Lexer.yields_ofString hscan)
  obtain ⟨next, -, hn⟩ := hyields.tokenize
  obtain ⟨next', -, hn'⟩ := (Lexer.yields_ofString hs).tokenize
  exact ⟨hvalue, by rw [hn, hn'], fun op hop => (he.1 op hop).ofToken, he.2.leaf?_token⟩

/-- Two operators in front of a number with leading zeros. -/
def zeros : Expr :=
  applied ⟨.ofSymbol .bang, "!"⟩ (applied ⟨.ofSymbol .minus, "-"⟩ (integer ⟨.integer, "007"⟩ 7))

theorem wellFormed_zeros : zeros.WellFormed := by
  have hbang : PrefixOp.WellFormed ⟨.ofSymbol .bang, "!"⟩ := ⟨.inr rfl, rfl⟩
  have hminus : PrefixOp.WellFormed ⟨.ofSymbol .minus, "-"⟩ := ⟨.inl rfl, rfl⟩
  have hdigits : "007".toList.all isDigit = true := by decide
  have hleaf : (integer ⟨.integer, "007"⟩ 7).IsLeaf :=
    ⟨⟨by decide, List.all_eq_true.1 hdigits⟩, rfl, by decide, by decide⟩
  exact wellFormed_applied_iff.2 ⟨hbang, wellFormed_applied_iff.2 ⟨hminus, hleaf.wellFormed⟩⟩

theorem readChain_text_zeros :
    zeros.WellFormed ∧ (readChain (.ofString "\n!- 007=x")).value = .ok zeros ∧
      (readChain (.ofString "\n!- 007=x")).lexer.tokenize.value =
        [.ofSymbol .assign, .ofWord "x", .endOfInput] := by
  have hblank : Layout.IsGap "\n" ∧ Layout.IsGap " " ∧ Layout.IsGap "" := by
    simp [Layout.IsGap]
    decide
  have hgaps : ∀ p ∈ ([(.ofSymbol .bang, ""), (.ofSymbol .minus, " "), (⟨.integer, "007"⟩, "")] :
      Layout), Layout.IsGap p.2 := by
    simp [hblank]
  have hrest : ∀ c ∈ "=x".toList.head?, isLetter c = false ∧ isDigit c = false := by
    rintro c ⟨⟩
    decide
  obtain ⟨hvalue, htokens, -⟩ :=
    readChain_text zeros wellFormed_zeros "\n" _ "=x" rfl hblank.1 hgaps hrest
  exact ⟨wellFormed_zeros, hvalue, htokens.trans (by decide +kernel)⟩

end Expr

end ScriptFront
