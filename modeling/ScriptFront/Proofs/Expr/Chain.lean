import Mathlib.Logic.Function.Iterate
import ScriptFront.Expr.Chain
import ScriptFront.Proofs.Lexer.Scan
import ScriptFront.Proofs.Text.Numeral

/-!
# Chains and the tokens that decide them

A chain is decided by the tokens alone: the operators in front are taken off, the token behind them
is the operand or what is wrong (`Expr.ofOperand`), and the operators are put in front of the operand
again (`Expr.under`). Whatever the outcome, these tokens are read and no more
(`Expr.readChain_ofString`).
-/

namespace ScriptFront

namespace Token

/-- Whether the token is an operator that stands in front of its operand. -/
def isPrefixOp (t : Token) : Bool :=
  t.kind == .symbol .minus || t.kind == .symbol .bang

/-- The operators at the start of a row of tokens. -/
def leadingOps (ts : List Token) : List Token :=
  ts.takeWhile (·.isPrefixOp)

/-- The token behind the operators at the start of a row of tokens, or the end of the input if there
is none. -/
def afterOps (ts : List Token) : Token :=
  (ts.dropWhile (·.isPrefixOp)).headD .endOfInput

variable {t : Token} {ts : List Token}

theorem leadingOps_cons_of_pos (h : t.isPrefixOp = true) :
    leadingOps (t :: ts) = t :: leadingOps ts :=
  List.takeWhile_cons_of_pos h

theorem leadingOps_cons_of_neg (h : t.isPrefixOp = false) : leadingOps (t :: ts) = [] :=
  List.takeWhile_cons_of_neg (by simp [h])

theorem afterOps_cons_of_pos (h : t.isPrefixOp = true) : afterOps (t :: ts) = afterOps ts := by
  rw [afterOps, List.dropWhile_cons_of_pos h, afterOps]

theorem afterOps_cons_of_neg (h : t.isPrefixOp = false) : afterOps (t :: ts) = t := by
  rw [afterOps, List.dropWhile_cons_of_neg (by simp [h]), List.headD_cons]

end Token

namespace Expr

/-- An expression with operators in front of it, the first of them outermost. -/
def under (ops : List Token) (operand : Expr) : Expr :=
  ops.foldr (fun t e => applied ⟨t, t.literal⟩ e) operand

/-- What a token comes to that stands where an operand should. -/
def ofOperand (x : Token) : Except ExprError Expr :=
  match x.kind with
  | .identifier => .ok (identifier x x.literal)
  | .string => .ok (string x x.literal)
  | .integer =>
    if Decimal.positional x.literal.toList ≤ 2 ^ 63 - 1 then
      .ok (integer x (.ofNat (Decimal.positional x.literal.toList)))
    else .error (.invalidInteger x.literal)
  | k => .error (.notPrefixOperator k)

/-! ### One token -/

variable {t : Token} {lx : Lexer}

theorem ofToken_of_isPrefixOp (h : t.isPrefixOp = true) :
    leaf? t = none ∧ PrefixOp.ofToken t = .ok ⟨t, t.literal⟩ := by
  have hk : t.kind = .symbol .minus ∨ t.kind = .symbol .bang := by
    simpa [Token.isPrefixOp] using h
  rcases hk with hk | hk <;> simp [leaf?, PrefixOp.ofToken, hk]

theorem ofToken_of_not_isPrefixOp (h : t.isPrefixOp = false) :
    PrefixOp.ofToken t = .error (.notPrefixOperator t.kind) := by
  unfold PrefixOp.ofToken
  split <;> simp_all [Token.isPrefixOp]

theorem readChain_of_isPrefixOp (lx : Lexer) (h : lx.nextToken.value.isPrefixOp = true) :
    (readChain lx).value = (readChain lx.afterToken).value.map (under [lx.nextToken.value]) ∧
      (readChain lx).lexer = (readChain lx.afterToken).lexer := by
  obtain ⟨hleaf, hop⟩ := ofToken_of_isPrefixOp h
  rw [readChain]
  split
  · simp_all
  · split
    · simp_all
    · rename_i op hop'
      obtain rfl : op = _ := Except.ok.inj (hop'.symm.trans hop)
      exact ⟨rfl, rfl⟩

theorem readChain_of_not_isPrefixOp (h : lx.nextToken.value.isPrefixOp = false) :
    readChain lx = lx.nextToken.map fun t =>
      (leaf? t).getD (.error (.notPrefixOperator t.kind)) := by
  have hop := ofToken_of_not_isPrefixOp h
  rw [readChain]
  split
  · simp_all [Outcome.map]
  · split
    · simp_all [Outcome.map]
    · simp_all

/-- Of the tokens of a text, and the end of the input, only integers can be wrong as operands. -/
theorem leaf?_getD (ht : t.WellFormed ∨ t = .endOfInput) :
    (leaf? t).getD (.error (.notPrefixOperator t.kind)) = ofOperand t := by
  rcases t with ⟨k, literal⟩
  cases k with
  | integer =>
    obtain ⟨hne, hd⟩ : (Token.mk .integer literal).WellFormed := by simpa [Token.endOfInput] using ht
    simp only [leaf?, ofOperand, ofDigits, Decimal.read?_of_digits hne hd,
      Decimal.value_eq_positional, Option.getD_some]
    split_ifs <;> rfl
  | _ => rfl

theorem readChain_of_operand (lx : Lexer)
    (ht : lx.nextToken.value.WellFormed ∨ lx.nextToken.value = .endOfInput)
    (h : lx.nextToken.value.isPrefixOp = false) :
    (readChain lx).value = ofOperand lx.nextToken.value ∧ (readChain lx).lexer = lx.afterToken := by
  rw [readChain_of_not_isPrefixOp h, Outcome.value_map, Outcome.lexer_map, leaf?_getD ht]
  exact ⟨rfl, rfl⟩

/-! ### The chain -/

theorem map_under_nil (x : Except ExprError Expr) : x.map (under []) = x := by
  cases x <;> rfl

theorem map_under_map_under (t : Token) (ops : List Token) (x : Except ExprError Expr) :
    (x.map (under ops)).map (under [t]) = x.map (under (t :: ops)) := by
  cases x <;> rfl

theorem readChain_of_yields {rs : List Reading} (h : lx.Yields rs) :
    (readChain lx).value =
        (ofOperand (Token.afterOps (rs.map (·.token)))).map
          (under (Token.leadingOps (rs.map (·.token)))) ∧
      (readChain lx).lexer =
        Lexer.afterToken^[(Token.leadingOps (rs.map (·.token))).length + 1] lx ∧
      (readChain lx).lexer.Yields
        (rs.drop ((Token.leadingOps (rs.map (·.token))).length + 1)) := by
  induction rs generalizing lx with
  | nil =>
    obtain ⟨next, hnext, hn⟩ := h.nextToken_nil
    have hafter : lx.afterToken = next := by rw [Lexer.afterToken, hn]
    obtain ⟨hvalue, hlexer⟩ := readChain_of_operand lx (by simp [hn]) (by rw [hn]; rfl)
    refine ⟨?_, hlexer, by rwa [hlexer, hafter]⟩
    rw [hvalue, hn, List.map_nil, Token.leadingOps, List.takeWhile_nil, map_under_nil]
    rfl
  | cons r rs ih =>
    obtain ⟨next, hnext, hn⟩ := h.nextToken_cons
    have hafter : lx.afterToken = next := by rw [Lexer.afterToken, hn]
    cases hop : r.token.isPrefixOp with
    | true =>
      obtain ⟨hvalue, hlexer⟩ := readChain_of_isPrefixOp lx (by rw [hn, hop])
      obtain ⟨hvalue', hlexer', hyields⟩ := ih hnext
      rw [hafter] at hvalue hlexer
      simp only [List.map_cons, Token.leadingOps_cons_of_pos hop, Token.afterOps_cons_of_pos hop,
        List.length_cons, Function.iterate_succ_apply, hafter]
      refine ⟨?_, hlexer.trans hlexer', by rwa [hlexer, List.drop_succ_cons]⟩
      rw [hvalue, hvalue', hn]
      exact map_under_map_under _ _ _
    | false =>
      have hwf : r.token.WellFormed := h.wellFormed r List.mem_cons_self
      obtain ⟨hvalue, hlexer⟩ :=
        readChain_of_operand lx (by rw [hn]; exact Or.inl hwf) (by rw [hn, hop])
      simp only [List.map_cons, Token.leadingOps_cons_of_neg hop, Token.afterOps_cons_of_neg hop,
        List.length_nil, map_under_nil]
      refine ⟨?_, hlexer, by rwa [hlexer, hafter, List.drop_succ_cons, List.drop_zero]⟩
      rw [hvalue, hn]

theorem exists_ofOperand_eq_ok_iff (x : Token) :
    (∃ e, ofOperand x = .ok e) ↔ x.kind = .identifier ∨ x.kind = .string ∨
      x.kind = .integer ∧ Decimal.positional x.literal.toList ≤ 2 ^ 63 - 1 := by
  rcases x with ⟨k, literal⟩
  cases k with
  | integer =>
    by_cases h : Decimal.positional literal.toList ≤ 2 ^ 63 - 1
    · have hok : ofOperand ⟨.integer, literal⟩ = .ok (integer _ _) := if_pos h
      exact iff_of_true ⟨_, hok⟩ (Or.inr (Or.inr ⟨rfl, h⟩))
    · have herror : ofOperand ⟨.integer, literal⟩ = .error (.invalidInteger literal) := if_neg h
      rw [herror]
      exact iff_of_false nofun (by simpa using h)
  | _ => simp [ofOperand]

/-- The tokens of a text decide its chain. The token behind the longest row of operators at the start
of them is the operand, and the chain is complete exactly if it is an identifier, a string, or an
integer of 64 bits; it is then the operand with the operators in front of it, and else the error is
what is wrong with that token. In either case the operators and that token are read. -/
theorem readChain_ofString (source : String) :
    (readChain (.ofString source)).value =
        (ofOperand (Token.afterOps (tokensOf source))).map
          (under (Token.leadingOps (tokensOf source))) ∧
      ((∃ e, (readChain (.ofString source)).value = .ok e) ↔
        (Token.afterOps (tokensOf source)).kind = .identifier ∨
          (Token.afterOps (tokensOf source)).kind = .string ∨
          (Token.afterOps (tokensOf source)).kind = .integer ∧
            Decimal.positional (Token.afterOps (tokensOf source)).literal.toList ≤ 2 ^ 63 - 1) ∧
      (readChain (.ofString source)).lexer =
        Lexer.afterToken^[(Token.leadingOps (tokensOf source)).length + 1] (.ofString source) ∧
      (readChain (.ofString source)).lexer.tokenize.value =
        (tokensOf source).drop ((Token.leadingOps (tokensOf source)).length + 1) ++
          [.endOfInput] := by
  obtain ⟨rs, hs⟩ := exists_scan source.toList
  obtain ⟨hvalue, hlexer, hyields⟩ := readChain_of_yields (Lexer.yields_ofString hs)
  rw [← (collect_ofString hs).1] at hvalue hlexer hyields
  refine ⟨hvalue, ?_, hlexer, ?_⟩
  · rw [← exists_ofOperand_eq_ok_iff, hvalue]
    cases ofOperand (Token.afterOps (tokensOf source)) <;> simp [Except.map]
  · obtain ⟨next, -, hn⟩ := hyields.tokenize
    rw [hn, List.map_drop, (collect_ofString hs).1]

end Expr

end ScriptFront
