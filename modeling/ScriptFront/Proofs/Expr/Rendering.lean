import ScriptFront.Expr.Render
import ScriptFront.Proofs.Expr.RoundTrip

/-!
# Rendering expressions

A well-formed expression without a string in it is rendered as its tokens, with parentheses around
each operator and its operand (`Expr.WellFormed.render_eq`). Like the tokens alone they do not
clash, and so they are read back, and with them the expression (`Expr.tokenize_render`).
-/

namespace ScriptFront.Expr

variable {e : Expr}

theorem IsLeaf.render_eq (h : e.IsLeaf) (hk : e.token.kind ≠ .string) :
    e.render = .ok e.token.lexeme := by
  rw [Token.lexeme, if_neg hk]
  cases e with
  | identifier _ _ => rw [render, h.2.2, token]
  | integer _ _ => rfl
  | string _ _ => exact absurd h.2.1 hk
  | pending _ => cases h
  | applied _ _ => cases h

theorem IsLeaf.parenthesized_eq (h : e.IsLeaf) : e.parenthesized = [e.token] := by
  rw [parenthesized, h.operators_eq.1, h.operators_eq.2]
  rfl

/-- Without a string in it, a well-formed expression is rendered as its tokens in parentheses. -/
theorem WellFormed.render_eq (he : e.WellFormed) (hk : e.innermost.token.kind ≠ .string) :
    e.render = .ok (String.join (e.parenthesized.map Token.lexeme)) := by
  have leaf {e : Expr} (he : e.IsLeaf) (hk : e.token.kind ≠ .string) :
      e.render = .ok (String.join (e.parenthesized.map Token.lexeme)) := by
    rw [he.render_eq hk, he.parenthesized_eq, List.map_singleton, String.join_cons,
      String.join_nil, String.append_empty]
  induction e with
  | applied op operand ih =>
    obtain ⟨hop, hoperand⟩ := wellFormed_applied_iff.1 he
    have hlexeme : op.token.lexeme = op.operator := by
      rw [hop.2]
      rcases hop.1 with ht | ht <;> rw [ht] <;> rfl
    have hleft : (Token.ofSymbol .leftParen).lexeme = "(" := rfl
    have hright : (Token.ofSymbol .rightParen).lexeme = ")" := rfl
    rw [render, ih hoperand hk, parenthesized_applied]
    simp [Except.map, String.join_cons, String.join_append, hlexeme, hleft, hright,
      String.append_assoc]
  | pending _ => cases he.2
  | _ => exact leaf he.2 hk

theorem WellFormed.scan_parenthesized (he : e.WellFormed) :
    Scan (String.join (e.parenthesized.map Token.lexeme)).toList
      (e.parenthesized.map .ofLexeme) := by
  have hbefore : ∀ t ∈ e.operators.flatMap (fun op => [.ofSymbol .leftParen, op.token]),
      t.IsMark := by
    intro t ht
    obtain ⟨op, hop, ht⟩ := List.mem_flatMap.1 ht
    rcases List.mem_pair.1 ht with rfl | rfl
    · exact ⟨.leftParen, rfl, nofun, nofun⟩
    · exact (he.1 op hop).isMark
  have hafter : ∀ t ∈ List.replicate e.operators.length (Token.ofSymbol .rightParen),
      t.IsMark := by
    intro t ht
    exact ⟨.rightParen, List.eq_of_mem_replicate ht, nofun, nofun⟩
  have hlead : Layout.IsGap "" := by simp [Layout.IsGap]
  have hgaps : ∀ p ∈ Layout.ofTokens e.parenthesized, Layout.IsGap p.2 := by
    simp [Layout.ofTokens, hlead]
  have hscan := Layout.scan_text_marks (Layout.tokens_ofTokens _) hbefore hafter
    he.2.wellFormed_token he.2.kind_token_ne hlead hgaps
  rwa [String.empty_append, Layout.tokens_ofTokens, Layout.text_ofTokens] at hscan

theorem WellFormed.filter_parenthesized (he : e.WellFormed) :
    e.parenthesized.filter (!·.isParenthesis) = e.tokens := by
  have hleft : (Token.ofSymbol .leftParen).isParenthesis = true := rfl
  have hright : (Token.ofSymbol .rightParen).isParenthesis = true := rfl
  have hleaf : e.innermost.token.isParenthesis = false := by
    rcases he.2.kind_token with hk | hk | hk <;> simp [Token.isParenthesis, hk]
  have hop : ∀ op ∈ e.operators,
      [Token.ofSymbol .leftParen, op.token].filter (!·.isParenthesis) = [op.token] := by
    intro op hop
    rcases (he.1 op hop).1 with ht | ht <;> rw [ht] <;> rfl
  have hops : (e.operators.flatMap fun op => [.ofSymbol .leftParen, op.token]).filter
      (!·.isParenthesis) = e.operators.map (·.token) := by
    rw [List.filter_flatMap, List.flatMap_congr hop, ← List.map_eq_flatMap]
  simp [parenthesized, tokens, hops, hleaf, hright]

theorem WellFormed.tokensOf_eq (he : e.WellFormed) :
    tokensOf (String.join (e.parenthesized.map Token.lexeme)) = e.parenthesized := by
  rw [(collect_ofString he.scan_parenthesized).1, map_token_ofLexeme]

/-- What a chain without a string is rendered as has the tokens that the chain has read, with
parentheses around each operator and its operand, and no others. So it tells which expression the
chain is. -/
theorem tokenize_render (source : String) (e : Expr)
    (h : (readChain (.ofString source)).value = .ok e)
    (hleaf : e.innermost.token.kind = .identifier ∨ e.innermost.token.kind = .integer) :
    ∃ text, e.render = .ok text ∧
      (Lexer.ofString text).tokenize.value = e.parenthesized ++ [.endOfInput] ∧
      (tokensOf text).filter (!·.isParenthesis) ++
          (readChain (.ofString source)).lexer.tokenize.value =
        (Lexer.ofString source).tokenize.value ∧
      ∀ source' e', (readChain (.ofString source')).value = .ok e' →
        e'.innermost.token.kind = .identifier ∨ e'.innermost.token.kind = .integer →
        e'.render = e.render → e' = e := by
  have ne_string {k : Kind} (hk : k = .identifier ∨ k = .integer) : k ≠ .string := by
    rcases hk with rfl | rfl <;> exact nofun
  obtain ⟨rs, hs⟩ := exists_scan source.toList
  obtain ⟨he, rest, hrs, hyields⟩ := wellFormed_of_readChain (Lexer.yields_ofString hs) h
  have hrender := he.render_eq (ne_string hleaf)
  refine ⟨_, hrender, ?_, ?_, ?_⟩
  · rw [tokenize_ofString, he.tokensOf_eq]
  · obtain ⟨next, -, hn⟩ := hyields.tokenize
    rw [hn, tokenize_ofString, (collect_ofString hs).1, hrs, he.tokensOf_eq,
      he.filter_parenthesized, List.append_assoc]
  · intro source' e' h' hleaf' heq
    obtain ⟨rs', hs'⟩ := exists_scan source'.toList
    obtain ⟨he', -⟩ := wellFormed_of_readChain (Lexer.yields_ofString hs') h'
    rw [he'.render_eq (ne_string hleaf'), hrender] at heq
    have htokens := congrArg tokensOf (Except.ok.inj heq)
    rw [he'.tokensOf_eq, he.tokensOf_eq] at htokens
    apply he.eq_of_tokens_eq he'
    rw [← he'.filter_parenthesized, htokens, he.filter_parenthesized]

theorem tokenize_render_zeros :
    (readChain (.ofString "!- 007;")).value = .ok zeros ∧
      zeros.innermost.token.kind = .integer ∧
      ∃ text, zeros.render = .ok text ∧
        (Lexer.ofString text).tokenize.value =
          [.ofSymbol .leftParen, .ofSymbol .bang, .ofSymbol .leftParen, .ofSymbol .minus,
            ⟨.integer, "007"⟩, .ofSymbol .rightParen, .ofSymbol .rightParen, .endOfInput] := by
  have h : (readChain (.ofString "!- 007;")).value = .ok zeros := by decide +kernel
  obtain ⟨text, hrender, htokens, -⟩ := tokenize_render "!- 007;" zeros h (.inr rfl)
  exact ⟨h, rfl, text, hrender, htokens⟩

end ScriptFront.Expr
