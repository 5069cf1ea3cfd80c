import ScriptFront.Expr.Basic

/-!
# Text of expressions

Every prefix expression is written in parentheses, its operator in front of its operand. An
identifier is written by its name and a string by its text without quotes; an integer keeps the
literal of its token, leading zeros included. An expression in which an operand is missing has no
text.
-/

namespace ScriptFront.Expr

/-- The text of the expression, or the operator that waits for an operand. -/
def render : Expr → Except ExprError String
  | identifier _ name => .ok name
  | integer t _ => .ok t.literal
  | string _ text => .ok text
  | pending op => .error (.missingOperand op.operator)
  | applied op operand => operand.render.map fun inner => "(" ++ op.operator ++ inner ++ ")"

/-- Writes the text of the expression behind what is there already, and says whether it has one. Of
an expression without a text nothing is written. -/
def writeTo (e : Expr) (out : String) : Bool × String :=
  match e.render with
  | .ok text => (true, out ++ text)
  | .error _ => (false, out)

/-- What is written of the expression, if it has a text. -/
def display? (e : Expr) : Option String :=
  match e.writeTo "" with
  | (true, text) => some text
  | (false, _) => none

end ScriptFront.Expr
