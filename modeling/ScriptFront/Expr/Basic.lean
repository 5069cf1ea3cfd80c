import ScriptFront.Expr.Error
import ScriptFront.Text.Decimal

/-!
# Expressions

An expression is an identifier, an integer, a string, or an operator in front of an operand. The
operator is known before its operand is, so there is also the expression that still waits for one
(`Expr.pending`). Each node keeps the token that it was built from beside the value that it took
from it; either may be changed without the other.
-/

namespace ScriptFront

/-- An operator in front of an operand, with its token. -/
structure PrefixOp where
  token : Token
  /-- The text that stands for the operator. -/
  operator : String
  deriving DecidableEq

/-- An expression. -/
inductive Expr where
  | identifier (token : Token) (name : String)
  | integer (token : Token) (value : Int64)
  | string (token : Token) (text : String)
  /-- An operator without operand. -/
  | pending (op : PrefixOp)
  /-- An operator with its operand. -/
  | applied (op : PrefixOp) (operand : Expr)
  deriving DecidableEq

/-- The operator that a token is: `-` or `!`, by its kind. The text is the literal of the token. -/
def PrefixOp.ofToken (t : Token) : Except ExprError PrefixOp :=
  match t.kind with
  | .symbol .minus => .ok ⟨t, t.literal⟩
  | .symbol .bang => .ok ⟨t, t.literal⟩
  | k => .error (.notPrefixOperator k)

theorem PrefixOp.kind_ne_endOfInput {t : Token} {op : PrefixOp} (h : ofToken t = .ok op) :
    t.kind ≠ .endOfInput := by
  intro hk
  simp [ofToken, hk] at h

namespace Expr

/-- The identifier named by the literal of a token of any kind. -/
def ofName (t : Token) : Expr :=
  identifier t t.literal

/-- The string with the literal of a token of any kind as its text. -/
def ofText (t : Token) : Expr :=
  string t t.literal

/-- The integer written by the literal of a token of any kind. -/
def ofDigits (t : Token) : Except ExprError Expr :=
  match Decimal.read? t.literal with
  | some v => .ok (integer t v)
  | none => .error (.invalidInteger t.literal)

/-- The token that the expression starts with. -/
def token : Expr → Token
  | identifier t _ => t
  | integer t _ => t
  | string t _ => t
  | pending op => op.token
  | applied op _ => op.token

/-- The operator of a prefix expression. -/
def prefixOp? : Expr → Option PrefixOp
  | pending op => some op
  | applied op _ => some op
  | _ => none

/-- The operand of a prefix expression, if it has got one. -/
def operand? : Expr → Option Expr
  | applied _ operand => some operand
  | _ => none

/-- Gives a prefix expression an operand, in place of the one that it may have. -/
def attach? (e operand : Expr) : Option Expr :=
  e.prefixOp?.map fun op => applied op operand

end Expr

end ScriptFront
