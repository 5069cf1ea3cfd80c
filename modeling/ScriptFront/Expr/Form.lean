import ScriptFront.Expr.Basic
import ScriptFront.Token.Form

/-!
# Written forms of expressions

An expression is a row of operators (`Expr.operators`) in front of an innermost operand
(`Expr.innermost`), and it is written with their tokens (`Expr.tokens`). The expressions that texts
can have are well-formed (`Expr.WellFormed`): no operand is missing, and every node has the value
that its token stands for.
-/

namespace ScriptFront

/-- Whether the token is a round parenthesis. -/
def Token.isParenthesis (t : Token) : Bool :=
  t.kind == .symbol .leftParen || t.kind == .symbol .rightParen

/-- Whether the operator is one that texts have. -/
def PrefixOp.WellFormed (op : PrefixOp) : Prop :=
  (op.token = .ofSymbol .minus ∨ op.token = .ofSymbol .bang) ∧ op.operator = op.token.literal

namespace Expr

/-- The operators in front of the innermost operand, the first of them outermost. -/
def operators : Expr → List PrefixOp
  | applied op operand => op :: operand.operators
  | _ => []

/-- What all the operators stand in front of. It is no operator with an operand. -/
def innermost : Expr → Expr
  | applied _ operand => operand.innermost
  | e => e

/-- The tokens that the expression is written with. -/
def tokens (e : Expr) : List Token :=
  e.operators.map (·.token) ++ [e.innermost.token]

/-- The tokens of the expression with parentheses around each operator and its operand. -/
def parenthesized (e : Expr) : List Token :=
  e.operators.flatMap (fun op => [.ofSymbol .leftParen, op.token]) ++ [e.innermost.token] ++
    .replicate e.operators.length (.ofSymbol .rightParen)

/-- Whether the expression is an identifier, an integer or a string that texts have. -/
def IsLeaf : Expr → Prop
  | identifier t name => t.WellFormed ∧ t.kind = .identifier ∧ name = t.literal
  | integer t value =>
    t.WellFormed ∧ t.kind = .integer ∧ Decimal.value t.literal.toList ≤ Int64.maxValue.toInt ∧
      value = .ofNat (Decimal.value t.literal.toList)
  | string t text => t.WellFormed ∧ t.kind = .string ∧ text = t.literal
  | pending _ => False
  | applied _ _ => False

/-- Whether the expression is one that texts have. -/
def WellFormed (e : Expr) : Prop :=
  (∀ op ∈ e.operators, op.WellFormed) ∧ e.innermost.IsLeaf

theorem parenthesized_applied (op : PrefixOp) (operand : Expr) :
    (applied op operand).parenthesized =
      .ofSymbol .leftParen :: op.token :: (operand.parenthesized ++ [.ofSymbol .rightParen]) := by
  simp [parenthesized, operators, innermost, List.replicate_succ']

theorem wellFormed_applied_iff {op : PrefixOp} {operand : Expr} :
    (applied op operand).WellFormed ↔ op.WellFormed ∧ operand.WellFormed := by
  simp [WellFormed, operators, innermost, and_assoc]

end Expr

end ScriptFront
