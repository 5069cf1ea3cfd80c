import ScriptFront.Text.Quoted
import ScriptFront.Token.Basic

/-!
# Expression errors

Why an expression cannot be built from a token, or not be written as text.
-/

namespace ScriptFront

/-- What is wrong with an expression or with the token it is built from. -/
inductive ExprError where
  /-- A prefix expression has an operator and no operand. -/
  | missingOperand (operator : String)
  /-- A token of this kind does not start a prefix expression. -/
  | notPrefixOperator (kind : Kind)
  /-- The text is no decimal integer of 64 bits. -/
  | invalidInteger (literal : String)
  deriving DecidableEq

/-- The text of the error. -/
def ExprError.message : ExprError → String
  | missingOperand op => "prefix expression `" ++ op ++ "` has no operand"
  | notPrefixOperator k => "token " ++ k.name ++ " is not a prefix operator"
  | invalidInteger text => "could not parse " ++ Quoted.ofString text ++ " as integer"

end ScriptFront
