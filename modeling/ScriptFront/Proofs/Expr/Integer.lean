import ScriptFront.Expr.Basic
import ScriptFront.Proofs.Lexer.Backlog
import ScriptFront.Proofs.Text.Numeral

/-!
# Integers from tokens

Whatever the kind of a token is, an integer is made from it exactly if its literal writes a number
of 64 bits (`Expr.ofDigits_iff_writes`). The literal of an integer token that a lexer gives has
digits only, as many as the text has, so that there only the upper end of the range counts
(`Expr.ofDigits_of_wellFormed`).
-/

namespace ScriptFront.Expr

open Decimal (IsDigits Writes positional)

variable {t : Token}

theorem ofDigits_eq_ok_iff {e : Expr} :
    ofDigits t = .ok e ↔ ∃ v : Int64, Writes t.literal.toList v.toInt ∧ e = integer t v := by
  unfold ofDigits
  cases hv : Decimal.read? t.literal with
  | none =>
    have hno (v : Int64) : ¬ Writes t.literal.toList v.toInt := by
      rw [← Decimal.read?_eq_some_iff, hv]
      exact Option.some_ne_none v ∘ Eq.symm
    simp [hno]
  | some v =>
    constructor
    · intro h
      exact ⟨v, Decimal.read?_eq_some_iff.1 hv, (Except.ok.inj h).symm⟩
    · rintro ⟨w, hw, rfl⟩
      rw [← Decimal.read?_eq_some_iff, hv] at hw
      rw [Option.some.inj hw]

theorem ofDigits_eq_error_iff {err : ExprError} :
    ofDigits t = .error err ↔
      (¬∃ n, Writes t.literal.toList n ∧ -2 ^ 63 ≤ n ∧ n ≤ 2 ^ 63 - 1) ∧
        err = .invalidInteger t.literal := by
  rw [← Decimal.read?_eq_none_iff]
  unfold ofDigits
  cases Decimal.read? t.literal with
  | none => simp [eq_comm]
  | some v => simp

theorem ofDigits_write (kind : Kind) (v : Int64) :
    ofDigits ⟨kind, Decimal.write v⟩ = .ok (integer ⟨kind, Decimal.write v⟩ v) :=
  ofDigits_eq_ok_iff.2 ⟨v, Decimal.writes_write v, rfl⟩

/-- The digits of an integer token write no other number than the one they stand for. -/
theorem ofDigits_of_wellFormed (ht : t.WellFormed) (hk : t.kind = .integer) {e : Expr} :
    ofDigits t = .ok e ↔
      positional t.literal.toList ≤ 2 ^ 63 - 1 ∧
        ∃ v : Int64, v.toInt = positional t.literal.toList ∧ e = integer t v := by
  simp only [Token.WellFormed, hk] at ht
  have hd : IsDigits t.literal.toList :=
    ⟨fun h => ht.1 (String.toList_eq_nil_iff.1 h), ht.2⟩
  rw [ofDigits_eq_ok_iff]
  constructor
  · rintro ⟨v, hv, rfl⟩
    have heq := hv.unique (.unsigned hd)
    have hlt := v.toInt_lt
    exact ⟨by omega, v, heq, rfl⟩
  · rintro ⟨-, v, hv, rfl⟩
    exact ⟨v, hv ▸ .unsigned hd, rfl⟩

/-- An integer is made from a token exactly if its literal is one or more digits behind at most one
sign that stand for a number of 64 bits; it has that number and the token. All other literals are
refused, and the error names them. So a number is read back from its decimal text, and an integer
token that a lexer gives is refused only if its digits stand for more than `2 ^ 63 - 1`. -/
theorem ofDigits_iff_writes :
    (∀ t e, ofDigits t = .ok e ↔
      ∃ v : Int64, Writes t.literal.toList v.toInt ∧ e = integer t v) ∧
    (∀ t err, ofDigits t = .error err ↔
      (¬∃ n, Writes t.literal.toList n ∧ -2 ^ 63 ≤ n ∧ n ≤ 2 ^ 63 - 1) ∧
        err = .invalidInteger t.literal) ∧
    (∀ kind (v : Int64),
      ofDigits ⟨kind, Decimal.write v⟩ = .ok (integer ⟨kind, Decimal.write v⟩ v)) ∧
    ∀ source qs, ∀ t ∈ ((Lexer.ofString source).replies qs).flatMap Lexer.Reply.tokens,
      t.kind = .integer → ∀ e, ofDigits t = .ok e ↔
        positional t.literal.toList ≤ 2 ^ 63 - 1 ∧
          ∃ v : Int64, v.toInt = positional t.literal.toList ∧ e = integer t v := by
  refine ⟨fun t e => ofDigits_eq_ok_iff, fun t err => ofDigits_eq_error_iff, ofDigits_write, ?_⟩
  intro source qs t ht hk e
  obtain ⟨rs, hs⟩ := exists_scan source.toList
  have hyields := Lexer.yields_ofString hs
  rw [hyields.replies] at ht
  rcases Lexer.Request.mem_of_mem_tokens_replies ht with hmem | ⟨-, rfl⟩
  · obtain ⟨r, hr, rfl⟩ := List.mem_map.1 hmem
    exact ofDigits_of_wellFormed (hyields.wellFormed r hr) hk
  · cases hk

/-- The least number of 64 bits from a token of another kind, and digits with zeros in front from a
lexer. -/
theorem ofDigits_iff_writes_least :
    Writes "-9223372036854775808".toList (-2 ^ 63) ∧
      ofDigits ⟨.illegal, "-9223372036854775808"⟩ =
        .ok (integer ⟨.illegal, "-9223372036854775808"⟩ Int64.minValue) ∧
      ⟨.integer, "007"⟩ ∈
        ((Lexer.ofString "-007").replies [.nth 1]).flatMap Lexer.Reply.tokens ∧
      ofDigits ⟨.integer, "007"⟩ = .ok (integer ⟨.integer, "007"⟩ 7) := by
  have hdigits : IsDigits "9223372036854775808".toList :=
    ⟨by decide, List.all_eq_true.1 (by decide +kernel)⟩
  have hvalue : (positional "9223372036854775808".toList : Int) = 2 ^ 63 := by decide +kernel
  have hwrites : Writes "-9223372036854775808".toList (-2 ^ 63) := by
    rw [← hvalue]
    exact .minus hdigits
  have hmem : ⟨.integer, "007"⟩ ∈
      ((Lexer.ofString "-007").replies [.nth 1]).flatMap Lexer.Reply.tokens := by
    decide +kernel
  refine ⟨hwrites, ?_, hmem, ?_⟩
  · exact (ofDigits_iff_writes.1 _ _).2 ⟨Int64.minValue, hwrites, rfl⟩
  · exact (ofDigits_iff_writes.2.2.2 "-007" [.nth 1] _ hmem rfl _).2 ⟨by decide, 7, by decide, rfl⟩

end ScriptFront.Expr
